import TokenTransfer.Proofs.Answers
import TokenTransfer.Proofs.SettledOnce

namespace TokenTransfer

open Call
variable {error : TransferError}

namespace Guard

theorem authorized_kind {caller expected : Address} {role : Role} (refused : authorized caller expected role = .error error) :
    error.kind = .unauthorized := by
  unfold authorized at refused
  split at refused
  · cases refused
  · cases refused
    rfl

theorem credited_kind {account : Address} {denom : String} {balance amount : Amount}
    (refused : credited account denom balance amount = .error error) : error.kind = .balanceOverflow := by
  unfold credited at refused
  split at refused
  · cases refused
  · cases refused
    rfl

theorem remaining_kind {account : Address} {denom : String} {balance amount : Amount}
    (refused : remaining account denom balance amount = .error error) : error.kind = .insufficientBalance := by
  unfold remaining at refused
  split at refused
  · cases refused
  · cases refused
    rfl

theorem covered_kind {channel denom : String} {balance amount : Amount}
    (refused : covered channel denom balance amount = .error error) : error.kind = .insufficientEscrow := by
  unfold covered at refused
  split at refused
  · cases refused
    rfl
  · cases refused

end Guard

namespace Ledger
variable {ledger : Ledger}

theorem authorizeOperator_kind {caller : Address} (refused : ledger.authorizeOperator caller = .error error) :
    error.kind = .unauthorized := by
  unfold authorizeOperator at refused
  split at refused
  · cases refused
    rfl
  · exact Guard.authorized_kind refused

theorem mint_fails (caller target : Address) (denom : String) (amount : Amount) :
    Fails [.unauthorized,.balanceOverflow] (mint caller target denom amount) ledger := by
  refine Fails.got (Fails.checked (fun _ refused => ?_) fun _ _ => ?_)
  · simp [authorizeOperator_kind refused]
  refine Fails.checked (fun _ refused => ?_) fun sum _ => ?_
  · simp [Guard.credited_kind refused]
  exact ((succeeds_modify _).bind fun _ => record_succeeds _).fails

theorem transfer_fails (caller source target : Address) (denom : String) (amount : Amount) :
    Fails [.unauthorized,.insufficientBalance,.balanceOverflow] (transfer caller source target denom amount) ledger := by
  refine Fails.got (Fails.checked (fun _ refused => ?_) fun _ _ => ?_)
  · simp [authorizeOperator_kind refused]
  refine Fails.checked (fun _ refused => ?_) fun left _ => ?_
  · simp [Guard.remaining_kind refused]
  dsimp only
  split
  · refine Fails.checked (fun _ refused => ?_) fun sum _ => ?_
    · simp [Guard.credited_kind refused]
    exact ((succeeds_modify _).bind fun _ => (succeeds_modify _).bind fun _ => record_succeeds _).fails
  · exact (record_succeeds _).fails

end Ledger

namespace Chain
variable {chain : Chain} {packet : Packet}

theorem shortfall_kind {channel denom : String} {amount : Amount} (reason : TransferError)
    (told : reason.kind ∈ [ErrorKind.unauthorized,.insufficientBalance,.balanceOverflow]) :
    (shortfall channel denom amount reason).kind ∈ [ErrorKind.unauthorized,.insufficientEscrow,.balanceOverflow] := by
  cases reason <;> simp [TransferError.kind] at told <;> simp [shortfall,TransferError.kind]

theorem pay_fails (credit : Credit) :
    Fails [.unauthorized,.insufficientEscrow,.balanceOverflow] (pay credit) chain := by
  cases credit with
  | mint target denom amount => exact Fails.got ((Ledger.mint_fails _ _ _ _).within.wider (by decide))
  | release channel escrow target denom amount =>
    refine Fails.got (Fails.bind (fails_need (by simp [TransferError.kind])) fun account middle _ => ?_)
    refine Fails.checked (fun _ refused => ?_) fun _ _ => ?_
    · simp [Guard.covered_kind refused]
    exact Fails.amend (Ledger.transfer_fails _ _ _ _ _).within shortfall_kind

theorem payload_kind {α : Type} {read : Except PayloadError α} (refused : payload read = .error error) :
    error.kind = .malformedPayload := by
  cases read with
  | ok value => cases refused
  | error cause =>
    cases refused
    rfl

theorem reconstruct_kind (failed : chain.reconstruct packet = .error error) :
    error.kind ∈ [ErrorKind.malformedPayload,.insufficientEscrow] := by
  unfold reconstruct at failed
  rcases checks_fail.mp failed with unread | ⟨data,_,naming⟩
  · simp [payload_kind unread]
  · rcases checks_fail.mp naming with unnamed | ⟨sender,_,costing⟩
    · simp [payload_kind unnamed]
    · split at costing
      · split at costing
        · cases costing
        · cases costing
          simp [TransferError.kind]
      · cases costing

theorem charged_kind (failed : chain.charged packet = .error error) :
    error.kind ∈ [ErrorKind.malformedPayload,.insufficientEscrow] := by
  unfold charged at failed
  split at failed
  · cases failed
  · exact reconstruct_kind failed

theorem receipt_kind {caller : Address} (failed : chain.receipt caller packet = .error error) :
    error.kind ∈ [ErrorKind.unauthorized,.receiveDisabled,.invalidPort,.malformedPayload] := by
  unfold receipt at failed
  rcases checks_fail.mp failed with stranger | ⟨_,_,opening⟩
  · simp [Guard.authorized_kind stranger]
  rcases checks_fail.mp opening with closed | ⟨_,_,binding⟩
  · unfold enabled at closed
    split at closed <;> cases closed
    simp [TransferError.kind]
  rcases checks_fail.mp binding with elsewhere | ⟨_,_,reading⟩
  · unfold onBoundPort at elsewhere
    split at elsewhere
    · cases elsewhere
    · split at elsewhere <;> cases elsewhere
      simp [TransferError.kind]
  rcases checks_fail.mp reading with unread | ⟨data,_,naming⟩
  · simp [payload_kind unread]
  rcases checks_fail.mp naming with unnamed | ⟨receiver,_,done⟩
  · simp [payload_kind unnamed]
  · cases done

theorem receive_fails (caller : Address) (packet : Packet) :
    Fails [.unauthorized,.receiveDisabled,.invalidPort,.malformedPayload,.insufficientEscrow,.balanceOverflow]
      (receive caller packet) chain := by
  refine Fails.got (Fails.checked (fun _ refused => ?_) fun credit _ => ?_)
  · exact List.mem_append_left [.insufficientEscrow,.balanceOverflow] (receipt_kind refused)
  · exact (pay_fails credit).wider (by decide)

-- The ways in which a report is refused that the transport makes: a settled packet in
-- one way only, and in that way no other.
def refusals (settled : Bool) : List ErrorKind :=
  if settled then [.alreadySettled] else [.unauthorized,.malformedPayload,.insufficientEscrow,.balanceOverflow]

theorem refund_fails (packet : Packet) :
    Fails (refusals (chain.outbound.isSettled packet.source packet.sequence)) (refund packet) chain := by
  cases settled : chain.outbound.isSettled packet.source packet.sequence with
  | true =>
    intro error next failed
    rw [refund_settled settled] at failed
    cases failed
    simp [TransferError.kind,refusals]
  | false =>
    refine Fails.got (Fails.checked (fun _ refused => ?_) fun _ _ => ?_)
    · rw [unsettled_exact.mpr settled] at refused
      cases refused
    refine Fails.checked (fun _ refused => ?_) fun entry _ => ?_
    · have among : [ErrorKind.malformedPayload,.insufficientEscrow] ⊆ refusals false := by decide
      exact among (charged_kind refused)
    refine Fails.bind ((pay_fails _).wider (by decide)) fun event middle _ => ?_
    exact ((succeeds_modify _).bind fun _ => succeeds_pure _).fails

theorem confirm_fails (packet : Packet) :
    Fails (refusals (chain.outbound.isSettled packet.source packet.sequence)) (confirm packet) chain := by
  cases settled : chain.outbound.isSettled packet.source packet.sequence with
  | true =>
    intro error next failed
    rw [confirm_settled settled] at failed
    cases failed
    simp [TransferError.kind,refusals]
  | false =>
    refine Fails.got (Fails.checked (fun _ refused => ?_) fun _ _ => (succeeds_modify _).fails)
    rw [unsettled_exact.mpr settled] at refused
    cases refused

end Chain

namespace Host
variable {host : Host} {packet : Packet} {request : Request}

theorem step_receive_kind {caller : Address} (refused : (host.step (.receive caller packet)).1 = .error error) :
    error.kind ∈ [ErrorKind.unauthorized,.receiveDisabled,.invalidPort,.malformedPayload,.insufficientEscrow,
      .balanceOverflow] := by
  rw [receive_ends] at refused
  cases ran : Chain.receive caller packet host.chain with
  | ok event chain =>
    rw [ran] at refused
    cases refused
  | error reason chain =>
    rw [ran] at refused
    cases refused
    exact Chain.receive_fails caller packet _ _ ran

theorem step_report_kind (reported : request.packet? = some packet) (refused : (host.step request).1 = .error error) :
    error.kind = .unauthorized ∨
      error.kind ∈ Chain.refusals (host.chain.outbound.isSettled packet.source packet.sequence) := by
  cases request with
  | timeout caller known =>
    cases reported
    rw [timeout_ends] at refused
    cases admitted : host.chain.fromTransport caller with
    | error reason =>
      rw [admitted] at refused
      cases refused
      exact .inl (Guard.authorized_kind admitted)
    | ok transport =>
      cases ran : Chain.refund packet host.chain with
      | ok answer chain => rw [admitted,ran] at refused; cases refused
      | error reason chain =>
        rw [admitted,ran] at refused
        cases refused
        exact .inr (Chain.refund_fails packet _ _ ran)
  | acknowledge caller known bytes =>
    cases reported
    rw [acknowledge_ends] at refused
    cases admitted : host.chain.fromTransport caller with
    | error reason =>
      rw [admitted] at refused
      cases refused
      exact .inl (Guard.authorized_kind admitted)
    | ok transport =>
      cases outcome : Acknowledgement.read bytes with
      | success proof =>
        cases ran : Chain.confirm packet host.chain with
        | ok answer chain => rw [admitted,outcome,ran] at refused; cases refused
        | error reason chain =>
          rw [admitted,outcome,ran] at refused
          cases refused
          exact .inr (Chain.confirm_fails packet _ _ ran)
      | failure reason =>
        cases ran : Chain.refund packet host.chain with
        | ok answer chain => rw [admitted,outcome,ran] at refused; cases refused
        | error reason chain =>
          rw [admitted,outcome,ran] at refused
          cases refused
          exact .inr (Chain.refund_fails packet _ _ ran)
  | _ => cases reported

theorem step_unsettled (reported : request.packet? = some packet)
    (unsettled : host.chain.outbound.isSettled packet.source packet.sequence = false) (place : ChannelEnd)
    (sequence : UInt64) : (host.step request).1 ≠ .error (.alreadySettled place sequence) := by
  intro refused
  have told := step_report_kind reported refused
  rw [unsettled] at told
  simp [TransferError.kind,Chain.refusals] at told

end Host
end TokenTransfer
