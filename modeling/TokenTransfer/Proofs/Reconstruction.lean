import TokenTransfer.Proofs.PayloadCodec
import TokenTransfer.Proofs.Refunds

namespace TokenTransfer

namespace Chain
variable {chain one two : Chain} {packet : Packet} {entry : InFlight}

theorem reconstruct_exact : chain.reconstruct packet = .ok entry ↔
    ∃ data sender debit, Payload.decode chain.config.encoding packet.data = .ok data ∧
      Address.read? data.sender = some sender ∧ sender ≠ .zero ∧
      chain.debitFor packet.source data.denom = some debit ∧ entry = ⟨sender,data.denom,data.amount,debit⟩ := by
  unfold reconstruct
  simp only [checks_then,payload_exact,payable_exact,debitFor_exact]
  constructor
  · intro parts
    obtain ⟨data,decoded,sender,⟨named,somebody⟩,made⟩ := parts
    cases leaves : Denomination.leavesHome packet.source data.denom with
    | true =>
      rw [if_pos leaves] at made
      cases known : chain.escrowOf packet.source.channel with
      | none =>
        rw [known] at made
        cases made
      | some escrow =>
        rw [known] at made
        cases made
        exact ⟨data,sender,.escrowed escrow,decoded,named,somebody,.inl ⟨leaves,escrow,rfl,rfl⟩,rfl⟩
    | false =>
      rw [if_neg (by simp [leaves])] at made
      cases made
      exact ⟨data,sender,.burned,decoded,named,somebody,.inr ⟨leaves,rfl⟩,rfl⟩
  · intro parts
    obtain ⟨data,sender,debit,decoded,named,somebody,cost,rfl⟩ := parts
    refine ⟨data,decoded,sender,⟨named,somebody⟩,?_⟩
    rcases cost with ⟨leaves,escrow,known,rfl⟩ | ⟨leaves,rfl⟩
    · rw [if_pos leaves,known]
      rfl
    · rw [if_neg (by simp [leaves])]
      rfl

-- A payload of an order yields what the order says of the sender, the tokens and the
-- amount; only the charge is decided anew.
theorem reconstruct_faithful {caller : Address} {order : TransferOrder}
    (written : Payload.encode chain.config.encoding (orderData caller order) = .ok packet.data)
    (short : packet.data.length < UInt32.size) (recovered : chain.reconstruct packet = .ok entry) :
    entry.sender = caller ∧ entry.denom = order.denom ∧ entry.amount = order.amount ∧
      chain.debitFor packet.source order.denom = some entry.debit := by
  obtain ⟨data,sender,debit,decoded,named,_,cost,rfl⟩ := reconstruct_exact.mp recovered
  obtain ⟨denom,amount,account,_⟩ := Payload.decode_faithful written short decoded
  rw [account] at named
  refine ⟨?_,denom,amount,denom ▸ cost⟩
  exact Option.some.inj (named.symm.trans (Address.text_roundtrip caller))

def outcome {α : Type} : EStateM.Result TransferError Chain α → Except TransferError (α × Ledger)
  | .ok value next => .ok (value,next.ledger)
  | .error error _ => .error error

theorem pay_outcome (credit : Credit) (identity : one.identity = two.identity) (ledger : one.ledger = two.ledger)
    (reports : one.surroundings.balance = two.surroundings.balance) :
    outcome (pay credit one) = outcome (pay credit two) := by
  cases credit with
  | mint target denom amount =>
    simp only [pay,onLedger,Call.get_then,Call.within,identity,ledger]
    cases Ledger.mint two.identity target denom amount two.ledger with
    | ok event after => rfl
    | error error after => rfl
  | release channel escrow target denom amount =>
    cases escrow with
    | none => rfl
    | some account =>
      simp only [pay,onLedger,Call.get_on,Call.bind_on,Call.need_on,Call.check_on,Call.amend,Call.within,identity,ledger,
        reports]
      cases Guard.covered channel denom (two.surroundings.balance two.ledger account denom) amount with
      | error error => rfl
      | ok _ =>
        simp only [ledger]
        cases Ledger.transfer two.identity account target denom amount two.ledger with
        | ok event after => rfl
        | error error after => rfl

theorem refund_pays (unsettled : chain.outbound.isSettled packet.source packet.sequence = false)
    (charged : chain.charged packet = .ok entry) : outcome (refund packet chain) =
      (outcome (pay (repayment packet entry) chain)).map fun paid => ((paid.1,entry.debit),paid.2) := by
  unfold refund settle
  simp only [Call.bind_on,Call.get_on,Call.check_on,unsettled_exact.mpr unsettled,charged,Call.modify_on,Call.pure_on]
  cases pay (repayment packet entry) chain with
  | ok event middle => rfl
  | error error middle => rfl

-- Two chains that charge the same for a packet refund it alike, if they are of one
-- mind about whether it is settled.
theorem refund_alike (identity : one.identity = two.identity) (ledger : one.ledger = two.ledger)
    (reports : one.surroundings.balance = two.surroundings.balance)
    (settled : one.outbound.isSettled packet.source packet.sequence =
      two.outbound.isSettled packet.source packet.sequence)
    (charged : one.charged packet = .ok entry) (again : two.charged packet = .ok entry) :
    outcome (refund packet one) = outcome (refund packet two) := by
  cases known : two.outbound.isSettled packet.source packet.sequence with
  | true =>
    rw [refund_settled known,refund_settled (settled.trans known)]
    rfl
  | false =>
    rw [refund_pays (settled.trans known) charged,refund_pays known again,
      pay_outcome (repayment packet entry) identity ledger reports]

end Chain

namespace Departure
variable {departure : Departure} {before after fresh : Chain} {entry : InFlight}

theorem Leaves.reconstructed (leaves : departure.Leaves before after)
    (short : departure.packet.data.length < UInt32.size) (encoding : fresh.config.encoding = before.config.encoding)
    (escrow : fresh.escrowOf departure.order.source.channel = before.escrowOf departure.order.source.channel)
    (recovered : fresh.reconstruct departure.packet = .ok entry) : entry = departure.entry := by
  obtain ⟨sender,denom,amount,cost⟩ := Chain.reconstruct_faithful (encoding ▸ leaves.written) short recovered
  have charged : entry.debit = departure.debit := by
    have same : fresh.debitFor departure.packet.source departure.order.denom =
        before.debitFor departure.order.source departure.order.denom := by
      unfold Chain.debitFor
      rw [leaves.source,escrow]
    rw [same,leaves.cost] at cost
    exact (Option.some.inj cost).symm
  cases entry
  cases sender
  cases denom
  cases amount
  cases charged
  rfl

theorem Leaves.recorded (leaves : departure.Leaves before after) :
    after.outbound.inFlight.find departure.packet.id = some departure.entry := by
  rw [leaves.booked]
  exact (Outbound.send_find _ _ _ _).trans (if_pos rfl)

end Departure

namespace Host
variable {host : Host} {request : Request} {packet : Packet} {caller : Address} {order : TransferOrder} {sent : SentPacket}

theorem step_outcome (asked : request.refunds? = some packet)
    (transport : request.caller? = some host.chain.config.transport) :
    (host.step request).1 = (Chain.outcome (Chain.refund packet host.chain)).map (fun paid => .moved paid.1.1) ∧
      (host.step request).2.chain.ledger =
        match Chain.outcome (Chain.refund packet host.chain) with
        | .ok paid => paid.2
        | .error _ => host.chain.ledger := by
  have stepped := step_refund asked transport
  cases ran : Chain.refund packet host.chain with
  | ok answer next =>
    rw [ran] at stepped
    exact ⟨congrArg Prod.fst stepped,congrArg (fun parts => parts.2.ledger) stepped⟩
  | error error next =>
    have same : next = host.chain := Chain.refund_traceless packet _ _ _ ran
    rw [ran,same] at stepped
    exact ⟨congrArg Prod.fst stepped,congrArg (fun parts => parts.2.ledger) stepped⟩

theorem records_agree (host : Host) (caller : Address) (order : TransferOrder) (sent : SentPacket)
    (answered : (host.step (.send caller order)).1 = .ok (.sent sent))
    (short : sent.packet.data.length < UInt32.size) (fresh : Host)
    (config : fresh.chain.config = host.chain.config)
    (escrow : fresh.chain.escrowOf order.source.channel = host.chain.escrowOf order.source.channel)
    (forgotten : fresh.chain.outbound.inFlight.find sent.packet.id = none)
    (entry : InFlight) (recovered : fresh.chain.reconstruct sent.packet = .ok entry) :
    (host.step (.send caller order)).2.chain.outbound.inFlight.find sent.packet.id = some entry ∧
      ∀ (kept : Host) (request : Request), kept.chain.outbound.inFlight.find sent.packet.id = some entry →
        Request.standingOf kept = Request.standingOf fresh → kept.chain.ledger = fresh.chain.ledger →
        kept.chain.outbound.isSettled sent.packet.source sent.packet.sequence =
          fresh.chain.outbound.isSettled sent.packet.source sent.packet.sequence →
        request.refunds? = some sent.packet → request.caller? = some host.chain.config.transport →
        (kept.step request).1 = (fresh.step request).1 ∧
          (kept.step request).2.chain.ledger = (fresh.step request).2.chain.ledger := by
  have leaves : Departure.Leaves ⟨caller,order,sent⟩ host.chain (host.step (.send caller order)).2.chain :=
    departed_leaves (departed_send answered ▸ List.mem_singleton_self _)
  have same : entry = Departure.entry ⟨caller,order,sent⟩ :=
    leaves.reconstructed short (congrArg Config.encoding config) escrow recovered
  refine ⟨same ▸ leaves.recorded,?_⟩
  intro kept request held standing ledger settled asked transport
  have configured : kept.chain.config = host.chain.config := (congrArg Prod.fst standing).trans config
  have identity : kept.chain.identity = fresh.chain.identity := congrArg (·.2.1) standing
  have reports : kept.chain.surroundings.balance = fresh.chain.surroundings.balance :=
    congrArg (·.2.2.balance) standing
  have charged : kept.chain.charged sent.packet = .ok entry := by
    unfold Chain.charged
    rw [held]
  have again : fresh.chain.charged sent.packet = .ok entry := by
    unfold Chain.charged
    rw [forgotten]
    exact recovered
  have alike := Chain.refund_alike identity ledger reports settled charged again
  obtain ⟨answer,moved⟩ := step_outcome asked (configured ▸ transport)
  obtain ⟨other,also⟩ := step_outcome asked (config ▸ transport)
  rw [answer,other,moved,also,alike,ledger]
  exact ⟨rfl,rfl⟩

-- The first delivery of the guest, with the relay as it was left and as it starts anew.
def loaded : Host := (relayed.run opening).2

def keeper : Host := (loaded.step (delivery 4)).2

def starter : Host := (keeper.step (.restart (Config.new relay))).2

theorem records_agree_starter :
    ∃ sent entry, (loaded.step (delivery 4)).1 = .ok (.sent sent) ∧ sent.packet.data.length < UInt32.size ∧
      starter.chain.config = loaded.chain.config ∧
      starter.chain.escrowOf reported.source.channel = loaded.chain.escrowOf reported.source.channel ∧
      starter.chain.outbound.inFlight.find sent.packet.id = none ∧ starter.chain.reconstruct sent.packet = .ok entry ∧
      keeper.chain.outbound.inFlight.find sent.packet.id = some entry ∧
      (keeper.step (.timeout relay sent.packet)).1.isOk = true ∧
      (keeper.step (.timeout relay sent.packet)).1 = (starter.step (.timeout relay sent.packet)).1 := by
  have facts : ∃ departure ∈ loaded.departed (delivery 4),
      (loaded.step (delivery 4)).1 = .ok (.sent departure.sent) ∧ departure.packet.data.length < UInt32.size ∧
        starter.chain.reconstruct departure.packet = .ok departure.entry ∧
        keeper.chain.outbound.isSettled departure.packet.source departure.packet.sequence = false ∧
        (keeper.step (.timeout relay departure.packet)).1.isOk = true := by decide +kernel
  obtain ⟨departure,_,answered,short,recovered,unsettled,granted⟩ := facts
  have forgotten : starter.chain.outbound.inFlight.find departure.packet.id = none := rfl
  have agree := records_agree loaded guest _ departure.sent answered short starter rfl rfl forgotten departure.entry recovered
  have same := agree.2 keeper (.timeout relay departure.packet) agree.1 rfl rfl unsettled rfl rfl
  exact ⟨departure.sent,departure.entry,answered,short,rfl,rfl,forgotten,recovered,agree.1,granted,same.1⟩

end Host
end TokenTransfer
