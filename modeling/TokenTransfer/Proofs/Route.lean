import TokenTransfer.Proofs.Denominations
import TokenTransfer.Proofs.Frames
import TokenTransfer.Proofs.Link
import TokenTransfer.Proofs.PayloadCodec

namespace TokenTransfer

-- A channel between two chains: its ends, the accounts that hold what left by
-- them, and what both chains agree on.
structure Route where
  ends : Side → ChannelEnd
  escrows : Side → Address
  encoding : PayloadEncoding
  unprefixed : Bool

structure Route.Serves (route : Route) (side : Side) (chain : Chain) : Prop where
  plain : chain.surroundings = .plain
  opened : chain.channels.peer? (route.ends side) = some (route.ends side.other)
  guarded : chain.escrows.account? (route.ends side).channel = some (route.escrows side)
  encoded : chain.config.encoding = route.encoding
  named : chain.config.releaseUnprefixed = route.unprefixed

namespace Route
open Denomination
variable {route : Route} {side : Side} {chain next : Chain}

theorem Serves.setting (serves : route.Serves side chain) (same : next.setting = chain.setting) :
    route.Serves side next := by
  have surroundings : next.surroundings = chain.surroundings := (congrArg Chain.surroundings same :)
  have channels : next.channels = chain.channels := (congrArg Chain.channels same :)
  have escrows : next.escrows = chain.escrows := (congrArg Chain.escrows same :)
  have config : next.config = chain.config := (congrArg Chain.config same :)
  exact ⟨surroundings ▸ serves.plain,channels ▸ serves.opened,escrows ▸ serves.guarded,config ▸ serves.encoded,
    config ▸ serves.named⟩

theorem Serves.escrowOf (serves : route.Serves side chain) :
    chain.escrowOf (route.ends side).channel = some (route.escrows side) := by
  unfold Chain.escrowOf
  rw [serves.plain]
  exact serves.guarded

def debit (route : Route) (side : Side) (denom : String) : Debit :=
  if leavesHome (route.ends side) denom then .escrowed (route.escrows side) else .burned

def releasedAs (route : Route) (side : Side) (denom : String) : String :=
  if route.unprefixed then (unwrap? (route.ends side.other) denom).getD denom else denom

def when (condition : Prop) [Decidable condition] (amount : Amount) : Nat := if condition then amount.units else 0

theorem when_pos {condition : Prop} [Decidable condition] {amount : Amount} (holds : condition) :
    when condition amount = amount.units := if_pos holds

theorem when_neg {condition : Prop} [Decidable condition] {amount : Amount} (fails : ¬condition) :
    when condition amount = 0 := if_neg fails

theorem when_iff {condition other : Prop} [Decidable condition] [Decidable other] {amount : Amount}
    (same : condition ↔ other) : when condition amount = when other amount := by
  unfold when
  simp only [same]

theorem Serves.debitFor (serves : route.Serves side chain) (denom : String) :
    chain.debitFor (route.ends side) denom = some (route.debit side denom) := by
  unfold Chain.debitFor Route.debit
  split
  · rw [serves.escrowOf]
    rfl
  · rfl

section
variable {caller : Address} {order : TransferOrder} {sent : SentPacket}

theorem send_parts (serves : route.Serves side chain) (departs : order.source = route.ends side)
    (moved : Chain.send caller order chain = .ok sent next) :
    sent.packet.source = route.ends side ∧ sent.packet.destination = route.ends side.other ∧
      sent.packet.sequence = chain.outbound.next (route.ends side) ∧
      Payload.encode route.encoding (Chain.orderData caller order) = .ok sent.packet.data ∧
      next.outbound = chain.outbound.send sent.packet ⟨caller,order.denom,order.amount,route.debit side order.denom⟩ ∧
      Chain.chargeOn chain.ledger chain.identity caller order.denom order.amount (route.debit side order.denom) =
        .ok sent.event next.ledger := by
  obtain ⟨peer,bytes,debit,ledger,dispatched,charged,packed,rfl⟩ := Chain.send_exact.mp moved
  obtain ⟨_,_,peered,_,cost,encoded⟩ := Chain.dispatch_exact.mp dispatched
  rw [serves.plain,departs] at peered
  rw [serves.encoded] at encoded
  rw [departs,serves.debitFor] at cost
  cases cost
  have far : peer = route.ends side.other := Option.some.inj (peered.symm.trans serves.opened)
  rw [packed]
  exact ⟨departs,far,congrArg chain.outbound.next departs,encoded,rfl,charged⟩

theorem send_held (serves : route.Serves side chain) (departs : order.source = route.ends side)
    (outside : caller ≠ route.escrows side) (moved : Chain.send caller order chain = .ok sent next) (denom : String) :
    next.ledger.held (route.escrows side) denom = chain.ledger.held (route.escrows side) denom +
      when (leavesHome (route.ends side) order.denom = true ∧ denom = order.denom) order.amount := by
  obtain ⟨_,_,_,_,_,charged⟩ := send_parts serves departs moved
  have notPayer : ¬(route.escrows side = caller ∧ denom = order.denom) := fun both => outside both.1.symm
  unfold Route.debit at charged
  by_cases leaves : leavesHome (route.ends side) order.denom = true
  · rw [if_pos leaves] at charged
    have held := Ledger.transfer_held charged (route.escrows side) denom
    rw [if_neg notPayer] at held
    simpa [when,leaves] using held
  · rw [if_neg leaves] at charged
    have held := Ledger.burn_held charged (route.escrows side) denom
    rw [if_neg notPayer] at held
    simpa [when,leaves] using held

theorem send_circulating (serves : route.Serves side chain) (departs : order.source = route.ends side)
    (moved : Chain.send caller order chain = .ok sent next) (denom : String) :
    next.ledger.circulating denom +
      when (leavesHome (route.ends side) order.denom = false ∧ denom = order.denom) order.amount =
        chain.ledger.circulating denom := by
  obtain ⟨_,_,_,_,_,charged⟩ := send_parts serves departs moved
  unfold Route.debit at charged
  by_cases leaves : leavesHome (route.ends side) order.denom = true
  · rw [if_pos leaves] at charged
    simpa [when,leaves] using Ledger.transfer_circulating charged denom
  · rw [if_neg leaves] at charged
    simpa [when,leaves] using Ledger.burn_circulating charged denom

end

section
variable {packet : Packet} {caller : Address} {denom : String} {amount : Amount} {event : TransferEvent} {cost : Debit}

theorem refund_parts (booked : chain.outbound.inFlight.find packet.id = some ⟨caller,denom,amount,route.debit side denom⟩)
    (moved : Chain.refund packet chain = .ok (event,cost) next) :
    chain.outbound.isSettled packet.source packet.sequence = false ∧
      next.outbound = chain.outbound.settle packet ∧
      (leavesHome (route.ends side) denom = true ∧
          Ledger.transfer chain.identity (route.escrows side) caller denom amount chain.ledger = .ok event next.ledger ∨
        leavesHome (route.ends side) denom = false ∧
          Ledger.mint chain.identity caller denom amount chain.ledger = .ok event next.ledger) := by
  obtain ⟨unsettled,entry,middle,charged,paid,_,rfl⟩ := Chain.refund_exact.mp moved
  unfold Chain.charged at charged
  rw [booked] at charged
  cases charged
  unfold Chain.repayment Route.debit at paid
  by_cases leaves : leavesHome (route.ends side) denom = true
  · simp only [leaves,if_true] at paid
    obtain ⟨account,ledger,known,_,ran,rfl⟩ := Chain.pay_release.mp paid
    cases known
    exact ⟨unsettled,rfl,.inl ⟨leaves,ran⟩⟩
  · simp only [leaves] at paid
    obtain ⟨ledger,ran,rfl⟩ := Chain.pay_mint.mp paid
    exact ⟨unsettled,rfl,.inr ⟨Bool.eq_false_iff.mpr leaves,ran⟩⟩

theorem refund_held (outside : caller ≠ route.escrows side)
    (booked : chain.outbound.inFlight.find packet.id = some ⟨caller,denom,amount,route.debit side denom⟩)
    (moved : Chain.refund packet chain = .ok (event,cost) next) (other : String) :
    next.ledger.held (route.escrows side) other +
      when (leavesHome (route.ends side) denom = true ∧ other = denom) amount =
        chain.ledger.held (route.escrows side) other := by
  have notPaid : ¬(route.escrows side = caller ∧ other = denom) := fun both => outside both.1.symm
  obtain ⟨_,_,⟨leaves,ran⟩ | ⟨leaves,ran⟩⟩ := refund_parts booked moved
  · have held := Ledger.transfer_held ran (route.escrows side) other
    rw [if_neg notPaid] at held
    simpa [when,leaves] using held
  · have held := Ledger.mint_held ran (route.escrows side) other
    rw [if_neg notPaid] at held
    simpa [when,leaves] using held

theorem refund_circulating
    (booked : chain.outbound.inFlight.find packet.id = some ⟨caller,denom,amount,route.debit side denom⟩)
    (moved : Chain.refund packet chain = .ok (event,cost) next) (other : String) :
    next.ledger.circulating other = chain.ledger.circulating other +
      when (leavesHome (route.ends side) denom = false ∧ other = denom) amount := by
  obtain ⟨_,_,⟨leaves,ran⟩ | ⟨leaves,ran⟩⟩ := refund_parts booked moved
  · simpa [when,leaves] using Ledger.transfer_circulating ran other
  · simpa [when,leaves] using Ledger.mint_circulating ran other

end

section
variable {packet : Packet} {caller : Address} {data : TransferData} {event : TransferEvent}

theorem receive_parts (serves : route.Serves side chain) (source : packet.source = route.ends side.other)
    (destination : packet.destination = route.ends side)
    (written : Payload.encode route.encoding data = .ok packet.data) (short : packet.data.length < UInt32.size)
    (moved : Chain.receive caller packet chain = .ok event next) :
    next.outbound = chain.outbound ∧ ∃ receiver, Address.read? data.receiver = some receiver ∧
      (carries (route.ends side.other) data.denom = true ∧
          Ledger.transfer chain.identity (route.escrows side) receiver (route.releasedAs side data.denom) data.amount
            chain.ledger = .ok event next.ledger ∨
        carries (route.ends side.other) data.denom = false ∧
          Ledger.mint chain.identity receiver (wrap (route.ends side) data.denom) data.amount chain.ledger =
            .ok event next.ledger) := by
  obtain ⟨credit,receipted,paid⟩ := Chain.receive_exact.mp moved
  obtain ⟨_,_,_,found,receiver,decoded,read,_,rfl⟩ := Chain.receipt_exact.mp receipted
  rw [serves.encoded] at decoded
  obtain ⟨sameDenom,sameAmount,_,sameReceiver⟩ := Payload.decode_faithful written short decoded
  rw [sameReceiver] at read
  unfold Chain.creditOf direction at paid
  rw [source,sameDenom,sameAmount,destination] at paid
  cases carried : carries (route.ends side.other) data.denom with
  | true =>
    simp only [carried,if_true,serves.named,serves.escrowOf] at paid
    obtain ⟨account,ledger,known,_,ran,rfl⟩ := Chain.pay_release.mp paid
    cases known
    exact ⟨rfl,receiver,read,.inl ⟨rfl,ran⟩⟩
  | false =>
    simp only [carried] at paid
    obtain ⟨ledger,ran,rfl⟩ := Chain.pay_mint.mp paid
    exact ⟨rfl,receiver,read,.inr ⟨rfl,ran⟩⟩

theorem receive_held (serves : route.Serves side chain) (source : packet.source = route.ends side.other)
    (destination : packet.destination = route.ends side) (outside : Address.read? data.receiver ≠ some (route.escrows side))
    (written : Payload.encode route.encoding data = .ok packet.data) (short : packet.data.length < UInt32.size)
    (moved : Chain.receive caller packet chain = .ok event next) (denom : String) :
    next.ledger.held (route.escrows side) denom +
      when (carries (route.ends side.other) data.denom = true ∧ denom = route.releasedAs side data.denom) data.amount =
        chain.ledger.held (route.escrows side) denom := by
  obtain ⟨_,receiver,read,paid⟩ := receive_parts serves source destination written short moved
  have notPaid : ∀ name, ¬(route.escrows side = receiver ∧ denom = name) :=
    fun name both => outside (both.1.symm ▸ read)
  rcases paid with ⟨carried,ran⟩ | ⟨carried,ran⟩
  · have held := Ledger.transfer_held ran (route.escrows side) denom
    rw [if_neg (notPaid _)] at held
    simpa [when,carried] using held
  · have held := Ledger.mint_held ran (route.escrows side) denom
    rw [if_neg (notPaid _)] at held
    simpa [when,carried] using held

theorem receive_circulating (serves : route.Serves side chain) (source : packet.source = route.ends side.other)
    (destination : packet.destination = route.ends side)
    (written : Payload.encode route.encoding data = .ok packet.data) (short : packet.data.length < UInt32.size)
    (moved : Chain.receive caller packet chain = .ok event next) (denom : String) :
    next.ledger.circulating denom = chain.ledger.circulating denom +
      when (carries (route.ends side.other) data.denom = false ∧ denom = wrap (route.ends side) data.denom)
        data.amount := by
  obtain ⟨_,receiver,_,⟨carried,ran⟩ | ⟨carried,ran⟩⟩ := receive_parts serves source destination written short moved
  · simpa [when,carried] using Ledger.transfer_circulating ran denom
  · simpa [when,carried] using Ledger.mint_circulating ran denom

end
end Route
end TokenTransfer
