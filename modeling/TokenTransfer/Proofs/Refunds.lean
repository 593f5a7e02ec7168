import TokenTransfer.Proofs.OutboundBooks
import TokenTransfer.Proofs.Payments

namespace TokenTransfer

namespace Ledger

def Repays (ledger : Ledger) (caller : Address) (entry : InFlight) : Prop :=
  ledger.Operates caller ∧
    match entry.debit with
    | .escrowed escrow => entry.amount.units ≤ ledger.held escrow entry.denom ∧
        (escrow = entry.sender ∨ ledger.held entry.sender entry.denom + entry.amount.units ≤ Amount.most.units)
    | .burned => ledger.held entry.sender entry.denom + entry.amount.units ≤ Amount.most.units

structure Repaid (entry : InFlight) (before after : Ledger) : Prop where
  owner : after.owner = before.owner
  operator : after.operator = before.operator
  events : after.events = before.events ++ [⟨entry.debit.payee,entry.sender,entry.denom,entry.amount⟩]
  moved : ∀ account denom, after.held account denom +
      (if entry.debit = .escrowed account ∧ denom = entry.denom then entry.amount.units else 0) =
    before.held account denom + if account = entry.sender ∧ denom = entry.denom then entry.amount.units else 0

end Ledger

namespace Chain
variable {chain next : Chain} {packet : Packet} {entry : InFlight} {event : TransferEvent} {debit : Debit}

theorem repays_exact {ledger : Ledger} {caller : Address} :
    ledger.Pays caller (repayment packet entry) ↔ ledger.Repays caller entry := by
  obtain ⟨sender,denom,amount,debit⟩ := entry
  cases debit with
  | burned => exact Iff.rfl
  | escrowed escrow => simp [Ledger.Pays,Ledger.Repays,repayment]

theorem repayment_done (plain : chain.surroundings.balance = Ledger.balance) :
    (∃ event next, pay (repayment packet entry) chain = .ok event next) ↔
      chain.ledger.Repays chain.identity entry := (pay_done plain).trans repays_exact

theorem repayment_payer (packet : Packet) (entry : InFlight) (account : Address) :
    (repayment packet entry).payer = some account ↔ entry.debit = .escrowed account := by
  obtain ⟨sender,denom,amount,debit⟩ := entry
  cases debit with
  | burned => exact iff_of_false nofun nofun
  | escrowed escrow => simp [repayment,Credit.payer]

theorem repayment_paid (paid : pay (repayment packet entry) chain = .ok event next) :
    event = ⟨entry.debit.payee,entry.sender,entry.denom,entry.amount⟩ ∧
      ∃ ledger, next = {chain with ledger} ∧ Ledger.Repaid entry chain.ledger ledger := by
  obtain ⟨told,ledger,same,moved⟩ := pay_paid paid
  have named : event = ⟨entry.debit.payee,entry.sender,entry.denom,entry.amount⟩ := by
    rw [told]
    obtain ⟨sender,denom,amount,debit⟩ := entry
    cases debit with
    | burned => rfl
    | escrowed escrow => rfl
  subst named
  refine ⟨rfl,ledger,same,moved.owner,moved.operator,moved.events,?_⟩
  intro account asked
  rw [if_congr (and_congr_left fun _ => (repayment_payer packet entry account).symm) rfl rfl]
  exact moved.moved account asked

theorem refund_repays (plain : chain.surroundings.balance = Ledger.balance)
    (unsettled : chain.outbound.isSettled packet.source packet.sequence = false)
    (charged : chain.charged packet = .ok entry) :
    match refund packet chain with
    | .ok (event,_) next => chain.ledger.Repays chain.identity entry ∧
        event = ⟨entry.debit.payee,entry.sender,entry.denom,entry.amount⟩ ∧
        ∃ ledger, Ledger.Repaid entry chain.ledger ledger ∧
          next = {chain with ledger,outbound := chain.outbound.settle packet}
    | .error _ next => ¬chain.ledger.Repays chain.identity entry ∧ next = chain := by
  cases ran : refund packet chain with
  | ok answer next =>
    obtain ⟨event,debit⟩ := answer
    obtain ⟨_,known,middle,found,paid,_,settled⟩ := refund_exact.mp ran
    rw [charged] at found
    cases found
    obtain ⟨told,ledger,rfl,repaid⟩ := repayment_paid paid
    exact ⟨(repayment_done plain).mp ⟨event,_,paid⟩,told,ledger,repaid,settled⟩
  | error error next =>
    refine ⟨?_,refund_traceless packet _ _ _ ran⟩
    intro repays
    obtain ⟨event,middle,paid⟩ := (repayment_done plain).mpr repays
    have granted := refund_exact.mpr ⟨unsettled,entry,middle,charged,paid,rfl,rfl⟩
    rw [ran] at granted
    cases granted

end Chain

namespace Request

def refunds? : Request → Option Packet
  | .timeout _ packet => some packet
  | .acknowledge _ packet bytes => if (Acknowledgement.read bytes).isSuccess then none else some packet
  | _ => none

end Request

namespace Host
variable {host next : Host} {request : Request} {packet : Packet} {event : TransferEvent} {reply : Reply}

theorem step_refund (asked : request.refunds? = some packet)
    (transport : request.caller? = some host.chain.config.transport) :
    ((host.step request).1,(host.step request).2.chain) =
      match Chain.refund packet host.chain with
      | .ok (event,_) next => (.ok (.moved event),next)
      | .error error next => (.error error,next) := by
  cases request with
  | timeout caller known =>
    cases asked
    rw [timeout_ends,Chain.fromTransport_exact.mpr (Option.some.inj transport)]
    cases Chain.refund packet host.chain with
    | ok result next => rfl
    | error error next => rfl
  | acknowledge caller known bytes =>
    rw [acknowledge_ends,Chain.fromTransport_exact.mpr (Option.some.inj transport)]
    cases outcome : Acknowledgement.read bytes with
    | success proof => simp [Request.refunds?,outcome,Acknowledgement.isSuccess] at asked
    | failure reason =>
      have same : known = packet := by simpa [Request.refunds?,outcome,Acknowledgement.isSuccess] using asked
      subst same
      cases Chain.refund known host.chain with
      | ok result next => rfl
      | error error next => rfl
  | _ => cases asked

theorem refund_granted (asked : request.refunds? = some packet) (answered : host.step request = (.ok reply,next)) :
    ∃ event debit, Chain.refund packet host.chain = .ok (event,debit) next.chain := by
  cases request with
  | timeout caller known =>
    cases asked
    obtain ⟨event,debit,_,refunded⟩ := step_timeout answered
    exact ⟨event,debit,refunded⟩
  | acknowledge caller known bytes =>
    rcases step_acknowledge answered with ⟨success,_⟩ | ⟨failure,event,debit,_,refunded⟩
    · simp [Request.refunds?,success] at asked
    · have same : known = packet := by simpa [Request.refunds?,failure] using asked
      exact ⟨event,debit,same ▸ refunded⟩
  | _ => cases asked

theorem report_refunded (reported : request.packet? = some packet)
    (answered : host.step request = (.ok (.moved event),next)) :
    ∃ debit, Chain.refund packet host.chain = .ok (event,debit) next.chain := by
  cases request with
  | timeout caller known =>
    cases reported
    obtain ⟨found,debit,told,refunded⟩ := step_timeout answered
    cases told
    exact ⟨debit,refunded⟩
  | acknowledge caller known bytes =>
    cases reported
    rcases step_acknowledge answered with ⟨_,told,_⟩ | ⟨_,found,debit,told,refunded⟩
    · cases told
    · cases told
      exact ⟨debit,refunded⟩
  | _ => cases reported

theorem refund_mirrors (host : Host) (requests : List Request) (new : host.chain.outbound = .new)
    (plain : host.chain.surroundings.balance = Ledger.balance) (running : ∀ request ∈ requests, request.restarts = false)
    (honest : faithful [] host requests = true)
    (few : ∀ place, (leaving place (host.departures requests)).length < UInt64.size - 2)
    (departure : Departure) (sent : departure ∈ host.departures requests)
    (flying : (host.run requests).2.chain.outbound.inFlight.find departure.packet.id ≠ none)
    (packet : Packet) (same : packet.id = departure.packet.id) (request : Request)
    (asked : request.refunds? = some packet) (transport : request.caller? = some host.chain.config.transport) :
    let reached := (host.run requests).2.chain
    let answer := ((host.run requests).2.step request).1
    let next := ((host.run requests).2.step request).2.chain
    departure.sent.event =
        ⟨departure.caller,departure.debit.payee,departure.order.denom,departure.order.amount⟩ ∧
      reached.outbound.inFlight.find packet.id = some departure.entry ∧
      (answer.isOk = true ↔ reached.ledger.Repays host.chain.identity departure.entry) ∧
      (answer.isOk = true →
        answer = .ok (.moved ⟨departure.debit.payee,departure.caller,departure.order.denom,departure.order.amount⟩) ∧
          ∃ ledger, Ledger.Repaid departure.entry reached.ledger ledger ∧
            next = {reached with ledger,outbound := reached.outbound.settle packet}) ∧
      (answer.isOk = false → next = reached) := by
  intro reached answer next
  have booked : Outbound.Booked (host.departures requests) (host.conclusions requests).length reached.outbound :=
    reached_booked new running honest few
  obtain ⟨entry,found⟩ := Option.ne_none_iff_exists'.mp flying
  obtain ⟨opened,rfl⟩ := booked.flown sent found
  rw [← same] at found
  have unsettled : reached.outbound.isSettled packet.source packet.sequence = false := by
    have source : packet.source = departure.packet.source := congrArg PacketId.source same
    have sequence : packet.sequence = departure.packet.sequence := congrArg PacketId.sequence same
    unfold Outbound.opens at opened
    rw [source,sequence]
    simpa using opened
  have charged : reached.charged packet = .ok departure.entry := by
    unfold Chain.charged
    rw [found]
  have standing : Request.standingOf (host.run requests).2 = Request.standingOf host := run_standing running
  have config : reached.config = host.chain.config := run_config running
  have identity : reached.identity = host.chain.identity := congrArg (·.2.1) standing
  have reports : reached.surroundings.balance = Ledger.balance :=
    (congrArg (fun parts : Config × Address × Surroundings => parts.2.2.balance) standing).trans plain
  obtain ⟨_,_,leaves⟩ := departures_leave sent
  refine ⟨leaves.told,found,?_⟩
  -- The packet is open and on record, so only its payment can still fail.
  have repaid := Chain.refund_repays reports unsettled charged
  have stepped := step_refund asked (config ▸ transport)
  rw [← identity]
  cases ran : Chain.refund packet reached with
  | ok result after =>
    obtain ⟨event,debit⟩ := result
    rw [ran] at repaid stepped
    obtain ⟨repays,told,moved⟩ := repaid
    have answered : answer = .ok (.moved event) := congrArg Prod.fst stepped
    have changed : next = after := congrArg Prod.snd stepped
    rw [answered,changed]
    refine ⟨⟨fun _ => repays,fun _ => rfl⟩,?_,?_⟩
    · intro _
      rw [told]
      exact ⟨rfl,moved⟩
    · intro refused
      cases refused
  | error error after =>
    rw [ran] at repaid stepped
    obtain ⟨short,still⟩ := repaid
    have answered : answer = .error error := congrArg Prod.fst stepped
    have changed : next = after := congrArg Prod.snd stepped
    rw [answered,changed]
    refine ⟨⟨?_,fun repays => absurd repays short⟩,?_,fun _ => still⟩
    · intro granted
      cases granted
    · intro granted
      cases granted

-- The relay gives up the first packet of its guest, and names it by another payload.
def giveUp : Request := .timeout relay {reported with data := [1],timeoutTimestamp := 5}

theorem refund_mirrors_errand :
    relayed.chain.outbound = .new ∧ relayed.chain.surroundings.balance = Ledger.balance ∧
      (∀ request ∈ expiryErrand, request.restarts = false) ∧ faithful [] relayed expiryErrand = true ∧
      (∀ place, (leaving place (relayed.departures expiryErrand)).length < UInt64.size - 2) ∧
      giveUp.caller? = some relayed.chain.config.transport ∧
      ∃ departure ∈ relayed.departures expiryErrand,
        (relayed.run expiryErrand).2.chain.outbound.inFlight.find departure.packet.id ≠ none ∧
        giveUp.refunds?.map Packet.id = some departure.packet.id ∧
        ((relayed.run expiryErrand).2.step giveUp).1 =
          .ok (.moved ⟨departure.debit.payee,departure.caller,departure.order.denom,departure.order.amount⟩) := by
  obtain ⟨running,honest,_,few⟩ := expiryErrand_honest
  have facts : ((relayed.run expiryErrand).2.step giveUp).1.isOk = true ∧
      ∃ departure ∈ relayed.departures expiryErrand, departure.packet.id = reported.id ∧
        (relayed.run expiryErrand).2.chain.outbound.inFlight.find departure.packet.id ≠ none := by decide +kernel
  obtain ⟨granted,departure,sent,same,flying⟩ := facts
  have mirrored := refund_mirrors relayed expiryErrand rfl rfl running honest few departure sent flying
    {reported with data := [1],timeoutTimestamp := 5} same.symm giveUp rfl rfl
  exact ⟨rfl,rfl,running,honest,few,rfl,departure,sent,flying,congrArg some same.symm,(mirrored.2.2.2.1 granted).1⟩

end Host
end TokenTransfer
