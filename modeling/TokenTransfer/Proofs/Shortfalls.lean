import TokenTransfer.Proofs.Debits
import TokenTransfer.Proofs.Receptions
import TokenTransfer.Proofs.Refusals

namespace TokenTransfer

theorem Ledger.transfer_short {ledger : Ledger} {caller source target : Address} {denom : String} {amount : Amount}
    (operates : ledger.Operates caller) (short : ledger.held source denom < amount.units) :
    transfer caller source target denom amount ledger =
      .error (.balanceShort source denom amount (ledger.balance source denom)) ledger := by
  have refused : Guard.remaining source denom (ledger.balance source denom) amount =
      .error (.balanceShort source denom amount (ledger.balance source denom)) := by
    have lacking : (ledger.balance source denom).sub? amount = none := if_pos short
    unfold Guard.remaining
    rw [lacking]
  unfold transfer
  rw [Call.get_then,authorizeOperator_exact.mpr operates,refused]
  rfl

namespace Chain
variable {chain : Chain} {channel denom : String} {escrow target : Address} {amount : Amount}

-- What a shortfall says there is: the reported balance where the report is too small
-- already, and the balance in the ledger where the report was good enough.
def available (chain : Chain) (escrow : Address) (denom : String) (amount : Amount) : Amount :=
  let told := chain.surroundings.balance chain.ledger escrow denom
  if told.units < amount.units then told else chain.ledger.balance escrow denom

theorem release_uncovered (short : (chain.surroundings.balance chain.ledger escrow denom).units < amount.units) :
    pay (.release channel (some escrow) target denom amount) chain =
      .error (.escrowShort channel denom amount (chain.surroundings.balance chain.ledger escrow denom)) chain := by
  have refused : Guard.covered channel denom (chain.surroundings.balance chain.ledger escrow denom) amount =
      .error (.escrowShort channel denom amount (chain.surroundings.balance chain.ledger escrow denom)) := if_pos short
  rw [pay,Call.get_then]
  simp only [Call.bind_on,Call.need_on,refused,Call.check_on]

theorem release_overdrawn (covered : amount.units ≤ (chain.surroundings.balance chain.ledger escrow denom).units)
    (operates : chain.ledger.Operates chain.identity) (short : chain.ledger.held escrow denom < amount.units) :
    pay (.release channel (some escrow) target denom amount) chain =
      .error (.escrowShort channel denom amount (chain.ledger.balance escrow denom)) chain := by
  have fooled : Guard.covered channel denom (chain.surroundings.balance chain.ledger escrow denom) amount = .ok () :=
    Guard.covered_exact.mpr covered
  rw [pay,Call.get_then]
  simp only [Call.bind_on,Call.need_on,fooled,Call.check_on,Call.amend,onLedger,Call.within,
    Ledger.transfer_short operates short,shortfall]

theorem release_short (operates : chain.ledger.Operates chain.identity)
    (short : chain.ledger.held escrow denom < amount.units) :
    pay (.release channel (some escrow) target denom amount) chain =
      .error (.escrowShort channel denom amount (chain.available escrow denom amount)) chain := by
  unfold available
  dsimp only
  split
  · rename_i little
    exact release_uncovered little
  · rename_i enough
    exact release_overdrawn (Nat.le_of_not_lt enough) operates short

end Chain

namespace Host
open Denomination
variable {host : Host} {request : Request} {packet : Packet} {channel denom : String} {escrow : Address}
  {amount : Amount} {entry : InFlight} {error : TransferError}

inductive Owes (host : Host) : Request → Address → String → Amount → Prop
  | homecoming {packet : Packet} {data : TransferData} {receiver escrow : Address} {rest : String}
      (accepting : host.chain.config.receiveEnabled = true)
      (bound : host.chain.onBoundPort packet.destination.port = .ok ()) (reads : host.chain.Reads packet data receiver)
      (home : data.denom = wrap packet.source rest)
      (registered : host.chain.escrowOf packet.destination.channel = some escrow) :
      Owes host (.receive host.chain.config.transport packet) escrow (host.chain.releasedAs data.denom rest) data.amount
  | repayment {request : Request} {packet : Packet} {entry : InFlight} {escrow : Address}
      (asked : request.refunds? = some packet) (transport : request.caller? = some host.chain.config.transport)
      (unsettled : host.chain.outbound.isSettled packet.source packet.sequence = false)
      (charged : host.chain.charged packet = .ok entry) (escrowed : entry.debit = .escrowed escrow) :
      Owes host request escrow entry.denom entry.amount

theorem receive_unpaid {caller : Address} {credit : Credit} (receipt : host.chain.receipt caller packet = .ok credit)
    (unpaid : Chain.pay credit host.chain = .error error host.chain) :
    (host.step (.receive caller packet)).1 = .error error := by
  have refused : Chain.receive caller packet host.chain = .error error host.chain := by
    unfold Chain.receive
    rw [Call.get_then]
    simp only [Call.bind_on,Call.check_on,receipt,unpaid]
  rw [receive_ends,refused]

theorem refund_unpaid (asked : request.refunds? = some packet)
    (transport : request.caller? = some host.chain.config.transport)
    (unsettled : host.chain.outbound.isSettled packet.source packet.sequence = false)
    (charged : host.chain.charged packet = .ok entry)
    (unpaid : Chain.pay (Chain.repayment packet entry) host.chain = .error error host.chain) :
    (host.step request).1 = .error error := by
  rw [(step_outcome asked transport).1,Chain.refund_pays unsettled charged,unpaid]
  rfl

theorem Owes.short (owes : host.Owes request escrow denom amount) (about : request.channel? = some channel)
    (operates : host.chain.ledger.Operates host.chain.identity)
    (short : host.chain.ledger.held escrow denom < amount.units) :
    (host.step request).1 = .error (.escrowShort channel denom amount (host.chain.available escrow denom amount)) := by
  cases owes with
  | @homecoming packet data receiver escrow rest accepting bound reads home registered =>
    cases about
    have receipt := Chain.receipt_exact.mpr ⟨rfl,accepting,bound,data,receiver,reads.decoded,reads.named,reads.somebody,rfl⟩
    rw [Chain.creditOf_home home,registered] at receipt
    exact receive_unpaid receipt (Chain.release_short operates short)
  | @repayment request packet entry escrow asked transport unsettled charged escrowed =>
    cases (Request.refunds_channel asked).symm.trans about
    have release : Chain.repayment packet entry =
        .release packet.source.channel (some escrow) entry.sender entry.denom entry.amount := by
      unfold Chain.repayment
      rw [escrowed]
    refine refund_unpaid asked transport unsettled charged ?_
    rw [release]
    exact Chain.release_short operates short

theorem step_no_balance (about : request.channel? = some channel) (account : Address) (denom : String)
    (required left : Amount) : (host.step request).1 ≠ .error (.balanceShort account denom required left) := by
  intro refused
  have report : ∀ {packet}, request.packet? ≠ some packet := by
    intro packet reported
    have told := step_report_kind reported refused
    unfold Chain.refusals at told
    split at told <;> simp [TransferError.kind] at told
  cases request with
  | receive caller packet => simpa [TransferError.kind] using step_receive_kind refused
  | timeout caller packet => exact report rfl
  | acknowledge caller packet bytes => exact report rfl
  | _ => cases about

theorem shortfalls_told (host : Host) (request : Request) (channel : String) (about : request.channel? = some channel) :
    (∀ account denom required left, (host.step request).1 ≠ .error (.balanceShort account denom required left)) ∧
      ∀ escrow denom amount, host.Owes request escrow denom amount →
        host.chain.ledger.Operates host.chain.identity → host.chain.ledger.held escrow denom < amount.units →
        let reported := host.chain.surroundings.balance host.chain.ledger escrow denom
        let left := if reported.units < amount.units then reported else host.chain.ledger.balance escrow denom
        (host.step request).1 = .error (.escrowShort channel denom amount left) ∧
          (host.step request).2.chain = host.chain := by
  refine ⟨step_no_balance about,?_⟩
  intro escrow denom amount owes operates short reported left
  have answered : (host.step request).1 = .error (.escrowShort channel denom amount left) := owes.short about operates short
  exact ⟨answered,step_error (Prod.ext answered rfl)⟩

-- Half of what the guest sent is taken out of the escrow, and the ledger is said to hold
-- more than ever.
def keeperOverreported : Host :=
  let robbed := (keeper.step (.transfer relay vault guest "stone" (stones 2))).2
  {robbed with chain := {robbed.chain with surroundings := Surroundings.plain.overreporting (stones 50)}}

theorem shortfalls_told_giveUp :
    giveUp.channel? = some "channel-0" ∧ keeperOverreported.Owes giveUp vault "stone" (stones 4) ∧
      keeperOverreported.chain.ledger.Operates keeperOverreported.chain.identity ∧
      keeperOverreported.chain.ledger.held vault "stone" < (stones 4).units ∧
      keeperOverreported.chain.surroundings.balance keeperOverreported.chain.ledger vault "stone" = stones 52 ∧
      (keeperOverreported.step giveUp).1 = .error (.escrowShort "channel-0" "stone" (stones 4) (stones 2)) ∧
      (keeperOverreported.step giveUp).2.chain = keeperOverreported.chain := by
  let packet : Packet := {reported with data := [1],timeoutTimestamp := 5}
  have facts : keeperOverreported.chain.outbound.isSettled packet.source packet.sequence = false ∧
      keeperOverreported.chain.charged packet = .ok ⟨guest,"stone",stones 4,.escrowed vault⟩ ∧
      keeperOverreported.chain.ledger.balance vault "stone" = stones 2 ∧
      keeperOverreported.chain.surroundings.balance keeperOverreported.chain.ledger vault "stone" = stones 52 := by
    decide +kernel
  obtain ⟨unsettled,charged,left,told⟩ := facts
  have owes : keeperOverreported.Owes giveUp vault "stone" (stones 4) := .repayment rfl rfl unsettled charged rfl
  have operates : keeperOverreported.chain.ledger.Operates keeperOverreported.chain.identity := by
    unfold Ledger.Operates
    decide +kernel
  have short : keeperOverreported.chain.ledger.held vault "stone" < (stones 4).units := by
    unfold Ledger.held
    rw [left]
    decide
  have shortfall :=
    (shortfalls_told keeperOverreported giveUp "channel-0" rfl).2 vault "stone" (stones 4) owes operates short
  rw [told,left] at shortfall
  exact ⟨rfl,owes,operates,short,told,shortfall⟩

end Host
end TokenTransfer
