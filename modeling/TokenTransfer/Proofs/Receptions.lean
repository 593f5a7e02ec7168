import TokenTransfer.Proofs.Denominations
import TokenTransfer.Proofs.Reconstruction

namespace TokenTransfer

theorem EscrowRegistry.account_somebody {registry : EscrowRegistry} {channel : String} {account : Address}
    (registered : registry.account? channel = some account) : account ≠ .zero := by
  simpa using (Option.filter_eq_some_iff.mp registered).2

namespace Chain
open Denomination
variable {chain next : Chain} {packet : Packet} {data : TransferData} {caller receiver : Address} {rest : String}
  {payer : Option Address} {event : TransferEvent}

def releasedAs (chain : Chain) (denom rest : String) : String :=
  if chain.config.releaseUnprefixed then rest else denom

theorem escrowOf_registered (registered : chain.surroundings.escrow = EscrowRegistry.account?) (channel : String) :
    chain.escrowOf channel = chain.escrows.account? channel := by
  unfold escrowOf
  rw [registered]

theorem creditOf_foreign (foreign : ∀ rest, data.denom ≠ wrap packet.source rest) :
    chain.creditOf packet data receiver = .mint receiver (wrap packet.destination data.denom) data.amount := by
  have strange : carries packet.source data.denom = false := by
    rw [Bool.eq_false_iff]
    intro carried
    obtain ⟨rest,same⟩ := carries_exact.mp carried
    exact foreign rest same
  unfold creditOf direction
  rw [strange]
  rfl

theorem creditOf_home (home : data.denom = wrap packet.source rest) : chain.creditOf packet data receiver =
    .release packet.destination.channel (chain.escrowOf packet.destination.channel) receiver
      (chain.releasedAs data.denom rest) data.amount := by
  unfold creditOf direction releasedAs
  rw [home,carries_wrap,unwrap_wrap]
  rfl

structure Reads (chain : Chain) (packet : Packet) (data : TransferData) (receiver : Address) : Prop where
  decoded : Payload.decode chain.config.encoding packet.data = .ok data
  named : Address.read? data.receiver = some receiver
  somebody : receiver ≠ .zero

-- What a packet can bring to a chain, with who pays it. Tokens that do not carry the
-- hop of the sender's end are foreign, and come as vouchers; those that carry it have
-- been here before, and come out of the escrow of the channel.
inductive Brings (chain : Chain) (packet : Packet) : Option Address → TransferEvent → Prop
  | voucher {data : TransferData} {receiver : Address} (reads : chain.Reads packet data receiver)
      (operates : chain.ledger.Operates chain.identity) (foreign : ∀ rest, data.denom ≠ wrap packet.source rest)
      (room : chain.ledger.held receiver (wrap packet.destination data.denom) + data.amount.units ≤ Amount.most.units) :
      Brings chain packet none (.mint receiver (wrap packet.destination data.denom) data.amount)
  | homecoming {data : TransferData} {receiver escrow : Address} {rest : String}
      (reads : chain.Reads packet data receiver) (operates : chain.ledger.Operates chain.identity)
      (home : data.denom = wrap packet.source rest)
      (registered : chain.escrows.account? packet.destination.channel = some escrow)
      (covered : data.amount.units ≤ chain.ledger.held escrow (chain.releasedAs data.denom rest))
      (room : receiver = escrow ∨
        chain.ledger.held receiver (chain.releasedAs data.denom rest) + data.amount.units ≤ Amount.most.units) :
      Brings chain packet (some escrow) ⟨escrow,receiver,chain.releasedAs data.denom rest,data.amount⟩

theorem receive_paid (received : receive caller packet chain = .ok event next) :
    ∃ data receiver, chain.Reads packet data receiver ∧ pay (chain.creditOf packet data receiver) chain = .ok event next := by
  obtain ⟨credit,receipt,paid⟩ := receive_exact.mp received
  obtain ⟨_,_,_,data,receiver,decoded,named,somebody,rfl⟩ := receipt_exact.mp receipt
  exact ⟨data,receiver,⟨decoded,named,somebody⟩,paid⟩

theorem receive_brings (reports : chain.surroundings.balance = Ledger.balance)
    (registered : chain.surroundings.escrow = EscrowRegistry.account?)
    (received : receive caller packet chain = .ok event next) : ∃ payer, chain.Brings packet payer event := by
  obtain ⟨data,receiver,reads,paid⟩ := receive_paid received
  have told := (pay_paid paid).1
  obtain ⟨operates,terms⟩ := (pay_done reports).mp ⟨event,next,paid⟩
  by_cases came : ∃ rest, data.denom = wrap packet.source rest
  · obtain ⟨rest,home⟩ := came
    rw [creditOf_home home,escrowOf_registered registered] at terms told
    obtain ⟨escrow,has,covered,room⟩ := terms
    rw [has] at told
    exact ⟨some escrow,told ▸ .homecoming reads operates home has covered (room.imp_left Eq.symm)⟩
  · have foreign : ∀ rest, data.denom ≠ wrap packet.source rest := fun rest home => came ⟨rest,home⟩
    rw [creditOf_foreign foreign] at terms told
    exact ⟨none,told ▸ .voucher reads operates foreign terms⟩

theorem Brings.credit (brings : chain.Brings packet payer event)
    (registered : chain.surroundings.escrow = EscrowRegistry.account?) : ∃ data receiver,
    chain.Reads packet data receiver ∧ chain.ledger.Pays chain.identity (chain.creditOf packet data receiver) ∧
      (chain.creditOf packet data receiver).payer = payer ∧
      (chain.creditOf packet data receiver).movement = event := by
  cases brings with
  | @voucher data receiver reads operates foreign room =>
    refine ⟨data,receiver,reads,?_⟩
    rw [creditOf_foreign foreign]
    exact ⟨⟨operates,room⟩,rfl,rfl⟩
  | @homecoming data receiver escrow rest reads operates home known covered room =>
    refine ⟨data,receiver,reads,?_⟩
    rw [creditOf_home home,escrowOf_registered registered,known]
    exact ⟨⟨operates,_,rfl,covered,room.imp_left Eq.symm⟩,rfl,rfl⟩

theorem Brings.received (brings : chain.Brings packet payer event)
    (reports : chain.surroundings.balance = Ledger.balance)
    (registered : chain.surroundings.escrow = EscrowRegistry.account?) (accepting : chain.config.receiveEnabled = true)
    (bound : chain.onBoundPort packet.destination.port = .ok ()) : ∃ ledger,
    receive chain.config.transport packet chain = .ok event {chain with ledger} ∧
      Ledger.Paid payer event chain.ledger ledger := by
  obtain ⟨data,receiver,reads,pays,rfl,rfl⟩ := brings.credit registered
  have receipt : chain.receipt chain.config.transport packet = .ok (chain.creditOf packet data receiver) :=
    receipt_exact.mpr ⟨rfl,accepting,bound,data,receiver,reads.decoded,reads.named,reads.somebody,rfl⟩
  obtain ⟨event,next,paid⟩ := (pay_done reports).mpr pays
  obtain ⟨told,ledger,rfl,moved⟩ := pay_paid paid
  subst told
  exact ⟨ledger,receive_exact.mpr ⟨_,receipt,paid⟩,moved⟩

end Chain

namespace Host
variable {host : Host} {chain : Chain} {packet : Packet} {caller : Address} {event : TransferEvent}

theorem receive_granted (received : Chain.receive caller packet host.chain = .ok event chain) :
    (host.step (.receive caller packet)).1 = .ok (.moved event) ∧
      (host.step (.receive caller packet)).2.chain = chain := by
  rw [receive_ends,received]
  exact ⟨rfl,rfl⟩

theorem receive_complete (host : Host) (caller : Address) (packet : Packet)
    (reports : host.chain.surroundings.balance = Ledger.balance)
    (registered : host.chain.surroundings.escrow = EscrowRegistry.account?)
    (transport : caller = host.chain.config.transport) (accepting : host.chain.config.receiveEnabled = true)
    (bound : ∀ port, host.chain.surroundings.boundPort host.chain.channels = some port → port = packet.destination.port) :
    let chain := host.chain
    let answer := (host.step (.receive caller packet)).1
    let next := (host.step (.receive caller packet)).2.chain
    (answer.isOk = true ↔ ∃ payer event, chain.Brings packet payer event) ∧
      (∀ payer event, chain.Brings packet payer event → answer = .ok (.moved event) ∧
        ∃ ledger, Ledger.Paid payer event chain.ledger ledger ∧ next = {chain with ledger}) ∧
      (answer.isOk = false → next = chain) := by
  intro chain answer next
  have done : ∀ payer event, chain.Brings packet payer event → answer = .ok (.moved event) ∧
      ∃ ledger, Ledger.Paid payer event chain.ledger ledger ∧ next = {chain with ledger} := by
    intro payer event brings
    obtain ⟨ledger,received,paid⟩ := brings.received reports registered accepting (Chain.onBoundPort_exact.mpr bound)
    rw [← transport] at received
    obtain ⟨answered,moved⟩ := receive_granted received
    exact ⟨answered,ledger,paid,moved⟩
  refine ⟨⟨?_,?_⟩,done,?_⟩
  · intro granted
    obtain ⟨reply,stepped⟩ := step_granted granted
    obtain ⟨event,_,received⟩ := step_receive stepped
    obtain ⟨payer,brings⟩ := Chain.receive_brings reports registered received
    exact ⟨payer,event,brings⟩
  · intro brought
    obtain ⟨payer,event,brings⟩ := brought
    rw [(done payer event brings).1]
    rfl
  · intro refused
    cases stepped : host.step (.receive caller packet) with
    | mk reply last =>
      have kept : next = last.chain := congrArg (fun result => result.2.chain) stepped
      have told : answer = reply := congrArg Prod.fst stepped
      rw [told] at refused
      cases reply with
      | ok reply => cases refused
      | error error => exact kept.trans (step_error stepped)

-- Tokens of the guest come home by the channel that they left by, to a relay that releases
-- them by their old name.
def keeperUnprefixed : Host := (keeper.step (.restart {Config.new relay with releaseUnprefixed := true})).2

def homeward : Packet :=
  let said := Payload.encode .abiAddress ⟨"transfer/channel-1/stone",stones 3,"cosmos1far",guest.text,""⟩
  ⟨1,reported.destination,reported.source,said.toOption.getD [],.zero,0⟩

theorem receive_complete_homeward :
    keeperUnprefixed.chain.surroundings.balance = Ledger.balance ∧
      keeperUnprefixed.chain.surroundings.escrow = EscrowRegistry.account? ∧
      relay = keeperUnprefixed.chain.config.transport ∧ keeperUnprefixed.chain.config.receiveEnabled = true ∧
      (∀ port, keeperUnprefixed.chain.surroundings.boundPort keeperUnprefixed.chain.channels = some port →
        port = homeward.destination.port) ∧
      ∃ payer event ledger, keeperUnprefixed.chain.Brings homeward payer event ∧
        event = ⟨⟨List.replicate 20 9,rfl⟩,guest,"stone",stones 3⟩ ∧
        (keeperUnprefixed.step (.receive relay homeward)).1 = .ok (.moved event) ∧
        Ledger.Paid payer event keeperUnprefixed.chain.ledger ledger ∧
        (keeperUnprefixed.step (.receive relay homeward)).2.chain = {keeperUnprefixed.chain with ledger} := by
  have unbound : ∀ port, keeperUnprefixed.chain.surroundings.boundPort keeperUnprefixed.chain.channels = some port →
      port = homeward.destination.port := nofun
  have answered : (keeperUnprefixed.step (.receive relay homeward)).1 =
      .ok (.moved ⟨⟨List.replicate 20 9,rfl⟩,guest,"stone",stones 3⟩) := by decide +kernel
  obtain ⟨granted,done,_⟩ := receive_complete keeperUnprefixed relay homeward rfl rfl rfl rfl unbound
  obtain ⟨payer,event,brings⟩ := granted.mp (congrArg Except.isOk answered)
  obtain ⟨told,ledger,paid,same⟩ := done payer event brings
  have named : event = ⟨⟨List.replicate 20 9,rfl⟩,guest,"stone",stones 3⟩ := by
    cases told.symm.trans answered
    rfl
  exact ⟨rfl,rfl,rfl,rfl,unbound,payer,event,ledger,brings,named,told,paid,same⟩

end Host
end TokenTransfer
