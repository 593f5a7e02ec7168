import TokenTransfer.Proofs.Receptions

namespace TokenTransfer

namespace Chain
variable {before after : Chain} {channel : String} {event : TransferEvent}

structure Mints (before after : Chain) (event : TransferEvent) : Prop where
  shown : event.isMint = true
  paid : Ledger.Paid none event before.ledger after.ledger

structure Releases (before after : Chain) (channel : String) (event : TransferEvent) : Prop where
  shown : event.isMint = false
  escrow : before.escrows.account? channel = some event.source
  paid : Ledger.Paid (some event.source) event before.ledger after.ledger

theorem Releases.apart (releases : before.Releases after channel event) : ¬before.Mints after event := by
  intro mints
  have shown := releases.shown.symm.trans mints.shown
  cases shown

theorem released_shown (registered : before.escrows.account? channel = some event.source) : event.isMint = false := by
  have somebody := EscrowRegistry.account_somebody registered
  unfold TransferEvent.isMint
  simpa using somebody

end Chain

namespace Departure
open Denomination
variable {departure : Departure} {before after far next : Chain} {carrier : Address} {event : TransferEvent}

inductive Met (departure : Departure) (far next : Chain) (event : TransferEvent) : Prop
  | mint (escrow : Address) (charged : departure.debit = .escrowed escrow) (mints : far.Mints next event)
      (named : event.denom = wrap departure.packet.destination departure.order.denom)
  | release (charged : departure.debit = .burned)
      (releases : far.Releases next departure.packet.destination.channel event) (rest : String)
      (carried : departure.order.denom = wrap departure.packet.source rest)
      (named : event.denom = far.releasedAs departure.order.denom rest)

-- Both sides ask whether the denomination carries the hop of the sender's end; that the
-- payload tells the far side of the same denomination is all that it takes for the same answer.
theorem Leaves.met (leaves : departure.Leaves before after) (short : departure.packet.data.length < UInt32.size)
    (encoding : far.config.encoding = before.config.encoding)
    (registered : far.surroundings.escrow = EscrowRegistry.account?)
    (received : Chain.receive carrier departure.packet far = .ok event next) :
    event.amount = departure.order.amount ∧ Address.read? departure.order.receiver = some event.target ∧
      departure.Met far next event := by
  obtain ⟨data,receiver,reads,paid⟩ := Chain.receive_paid received
  obtain ⟨denom,amount,_,same⟩ := Payload.decode_faithful leaves.written short (encoding ▸ reads.decoded)
  have denom : data.denom = departure.order.denom := denom
  have amount : data.amount = departure.order.amount := amount
  have named : Address.read? departure.order.receiver = some receiver := same.symm.trans reads.named
  cases stays : leavesHome departure.order.source departure.order.denom with
  | true =>
    have foreign : ∀ rest, data.denom ≠ wrap departure.packet.source rest := by
      intro rest home
      have strange := leavesHome_exact.mp stays
      rw [← denom,home,leaves.source,carries_wrap] at strange
      cases strange
    rw [Chain.creditOf_foreign foreign] at paid
    obtain ⟨rfl,ledger,rfl,moved⟩ := Chain.pay_paid paid
    refine ⟨amount,named,.mint departure.sent.event.target (if_pos stays) ⟨rfl,moved⟩ ?_⟩
    exact congrArg (wrap departure.packet.destination) denom
  | false =>
    have carried : carries departure.order.source departure.order.denom = true := by
      simpa [leavesHome] using stays
    obtain ⟨rest,home⟩ := carries_exact.mp carried
    rw [← leaves.source] at home
    rw [Chain.creditOf_home (denom.trans home),denom] at paid
    obtain ⟨escrow,known⟩ := Chain.pay_backed paid
    rw [known] at paid
    obtain ⟨rfl,ledger,rfl,moved⟩ := Chain.pay_paid paid
    have has : far.escrows.account? departure.packet.destination.channel = some escrow :=
      (Chain.escrowOf_registered registered _).symm.trans known
    refine ⟨amount,named,.release (if_neg (by simp [stays])) ⟨Chain.released_shown has,has,moved⟩ rest home rfl⟩

end Departure

namespace Host

theorem decisions_match (near far : Host) (caller carrier : Address) (order : TransferOrder) (sent : SentPacket)
    (answered : (near.step (.send caller order)).1 = .ok (.sent sent)) (short : sent.packet.data.length < UInt32.size)
    (encoding : far.chain.config.encoding = near.chain.config.encoding)
    (registered : far.chain.surroundings.escrow = EscrowRegistry.account?)
    (granted : (far.step (.receive carrier sent.packet)).1.isOk = true) :
    let charged := (near.step (.send caller order)).2.chain.outbound
    let before := far.chain
    let after := (far.step (.receive carrier sent.packet)).2.chain
    ∃ entry event, charged.inFlight.find sent.packet.id = some entry ∧
      (far.step (.receive carrier sent.packet)).1 = .ok (.moved event) ∧
      (before.Mints after event ↔ ∃ escrow, entry.debit = .escrowed escrow) ∧
      (before.Releases after sent.packet.destination.channel event ↔ entry.debit = .burned) ∧
      event.amount = order.amount ∧ Address.read? order.receiver = some event.target ∧
      (before.Mints after event → event.denom = Denomination.wrap sent.packet.destination order.denom) ∧
      (before.Releases after sent.packet.destination.channel event → ∃ rest,
        order.denom = Denomination.wrap sent.packet.source rest ∧ event.denom = before.releasedAs order.denom rest) := by
  intro charged before after
  have leaves := sent_leaves answered
  obtain ⟨reply,stepped⟩ := step_granted granted
  obtain ⟨event,told,received⟩ := step_receive stepped
  obtain ⟨amount,target,met⟩ := leaves.met short encoding registered received
  refine ⟨_,event,leaves.recorded,told ▸ congrArg Prod.fst stepped,?_⟩
  have same : after = (far.step (.receive carrier sent.packet)).2.chain := rfl
  rw [stepped] at same
  cases met with
  | mint escrow cost mints named =>
    have mints : before.Mints after event := same ▸ mints
    have unreleased : ¬before.Releases after sent.packet.destination.channel event := fun releases => releases.apart mints
    have unburned : ¬Departure.debit ⟨caller,order,sent⟩ = .burned := by
      rw [cost]
      nofun
    exact ⟨iff_of_true mints ⟨escrow,cost⟩,iff_of_false unreleased unburned,amount,target,fun _ => named,
      fun releases => absurd releases unreleased⟩
  | release cost releases rest carried named =>
    have releases : before.Releases after sent.packet.destination.channel event := same ▸ releases
    have unescrowed : ¬∃ escrow, Departure.debit ⟨caller,order,sent⟩ = .escrowed escrow := by
      rw [cost]
      nofun
    exact ⟨iff_of_false releases.apart unescrowed,iff_of_true releases cost,amount,target,
      fun mints => absurd mints releases.apart,fun _ => ⟨rest,carried,named⟩⟩

def outpost : Host :=
  (relayed.run [.setOperator relay relay,.openChannel relay reported.destination reported.source,
    .mint relay guest "transfer/channel-1/stone" (stones 4)]).2

def comeback : TransferOrder := ⟨reported.destination,"transfer/channel-1/stone",stones 3,guest.text,"",.zero,0⟩

theorem decisions_match_comeback :
    ∃ sent event, (outpost.step (.send guest comeback)).1 = .ok (.sent sent) ∧ sent.packet.data.length < UInt32.size ∧
      keeperUnprefixed.chain.config.encoding = outpost.chain.config.encoding ∧
      keeperUnprefixed.chain.surroundings.escrow = EscrowRegistry.account? ∧
      (keeperUnprefixed.step (.receive relay sent.packet)).1 = .ok (.moved event) ∧
      keeperUnprefixed.chain.Releases (keeperUnprefixed.step (.receive relay sent.packet)).2.chain
        sent.packet.destination.channel event ∧
      event.amount = stones 3 ∧ event.target = guest ∧ event.denom = "stone" := by
  have facts : ∃ departure ∈ outpost.departed (.send guest comeback),
      (outpost.step (.send guest comeback)).1 = .ok (.sent departure.sent) ∧
        ((outpost.step (.send guest comeback)).2.chain.outbound.inFlight.find departure.packet.id).map InFlight.debit =
          some .burned ∧
        departure.packet.data.length < UInt32.size ∧ departure.packet.source = reported.destination ∧
        (keeperUnprefixed.step (.receive relay departure.packet)).1.isOk = true := by decide +kernel
  obtain ⟨departure,_,answered,burned,short,source,granted⟩ := facts
  obtain ⟨entry,event,recorded,told,_,released,amount,target,_,named⟩ :=
    decisions_match outpost keeperUnprefixed guest relay comeback departure.sent answered short rfl rfl granted
  have burned : entry.debit = .burned := by
    have found := (congrArg (Option.map InFlight.debit) recorded).symm.trans burned
    exact Option.some.inj found
  have releases := released.mpr burned
  obtain ⟨rest,carried,named⟩ := named releases
  have wrapped : comeback.denom = Denomination.wrap departure.packet.source "stone" := by
    rw [source]
    decide
  have behind : "stone" = rest := Denomination.wrap_inj.mp (wrapped.symm.trans carried)
  have receiver : Address.read? comeback.receiver = some guest := Address.text_roundtrip guest
  exact ⟨departure.sent,event,answered,short,rfl,rfl,told,releases,amount,
    Option.some.inj (target.symm.trans receiver),named.trans behind.symm⟩

end Host
end TokenTransfer
