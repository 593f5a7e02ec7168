import TokenTransfer.Host
import TokenTransfer.Proofs.ChainRules

namespace TokenTransfer.Host
variable {host next : Host} {caller : Address} {packet : Packet} {order : TransferOrder} {bytes : Bytes}
  {event : TransferEvent} {sent : SentPacket} {trigger : Trigger} {error : TransferError}

theorem onChain_ok {α : Type} {call : Call Chain α} {value : α} : onChain call host = .ok value next ↔
    ∃ chain, call host.chain = .ok value chain ∧ next = {host with chain} := Call.within_ok

theorem observed_ok {α : Type} {entry : EntryPoint} {success : α → List Series}
    {failure : TransferError → List Series} {call : Call Host α} {value : α}
    (answered : observed entry success failure call host = .ok value next) :
    ∃ middle, call host = .ok value middle ∧ next.chain = middle.chain := by
  unfold observed at answered
  split at answered
  · rename_i found middle ran
    cases answered
    exact ⟨middle,ran,rfl⟩
  · cases answered

theorem observed_error {α : Type} {entry : EntryPoint} {success : α → List Series}
    {failure : TransferError → List Series} {call : Call Host α} (middle : Host)
    (failed : call host = .error error middle) :
    ∃ last, observed entry success failure call host = .error error last ∧ last.chain = middle.chain := by
  unfold observed
  rw [failed]
  exact ⟨_,rfl,rfl⟩

theorem onChain_keeps {α ν : Type} {view : Chain → ν} {call : Call Chain α} (keeps : Call.Keeps view call) :
    Call.Keeps (fun host => view host.chain) (onChain call) :=
  keeps.within (fun _ _ => rfl) fun _ => rfl

theorem observed_keeps {α ν : Type} {view : Chain → ν} {entry : EntryPoint} {success : α → List Series}
    {failure : TransferError → List Series} {call : Call Host α}
    (keeps : Call.Keeps (fun host => view host.chain) call) :
    Call.Keeps (fun host => view host.chain) (observed entry success failure call) := by
  intro host
  have kept := keeps host
  unfold observed
  cases ran : call host with
  | ok value next => rwa [ran] at kept
  | error reason next => rwa [ran] at kept

theorem refund_ok (repaid : refund trigger packet host = .ok event next) :
    ∃ debit, Chain.refund packet host.chain = .ok (event,debit) next.chain := by
  obtain ⟨⟨found,debit⟩,middle,ran,counted⟩ := Call.bind_ok.mp repaid
  obtain ⟨chain,refunded,rfl⟩ := onChain_ok.mp ran
  simp only [count,Call.modify_then,Call.pure_on,EStateM.Result.ok.injEq] at counted
  obtain ⟨rfl,rfl⟩ := counted
  exact ⟨debit,refunded⟩

theorem receive_ok (received : receive caller packet host = .ok event next) :
    Chain.receive caller packet host.chain = .ok event next.chain := by
  obtain ⟨middle,ran,same⟩ := observed_ok received
  obtain ⟨chain,accepted,rfl⟩ := onChain_ok.mp ran
  rwa [same]

theorem send_ok (departed : send caller order host = .ok sent next) :
    Chain.send caller order host.chain = .ok sent next.chain := by
  obtain ⟨middle,ran,same⟩ := observed_ok departed
  obtain ⟨chain,accepted,rfl⟩ := onChain_ok.mp ran
  rwa [same]

theorem timeout_ok (expired : timeout caller packet host = .ok event next) :
    caller = host.chain.config.transport ∧ ∃ debit, Chain.refund packet host.chain = .ok (event,debit) next.chain := by
  obtain ⟨middle,ran,same⟩ := observed_ok expired
  rw [Call.get_then,Call.check_then] at ran
  obtain ⟨_,transport,repaid⟩ := ran
  rw [same]
  exact ⟨Chain.fromTransport_exact.mp transport,refund_ok repaid⟩

theorem acknowledge_ok {answer : Option TransferEvent}
    (settled : acknowledge caller packet bytes host = .ok answer next) :
    caller = host.chain.config.transport ∧
      match answer with
      | none => (Acknowledgement.read bytes).isSuccess = true ∧ Chain.confirm packet host.chain = .ok () next.chain
      | some event => (Acknowledgement.read bytes).isSuccess = false ∧
          ∃ debit, Chain.refund packet host.chain = .ok (event,debit) next.chain := by
  obtain ⟨middle,ran,same⟩ := observed_ok settled
  rw [Call.get_then,Call.check_then] at ran
  obtain ⟨_,transport,handled⟩ := ran
  rw [same]
  refine ⟨Chain.fromTransport_exact.mp transport,?_⟩
  cases outcome : Acknowledgement.read bytes with
  | success proof =>
    simp only [outcome] at handled
    obtain ⟨_,confirmed,ran,counted⟩ := Call.bind_ok.mp handled
    obtain ⟨chain,accepted,rfl⟩ := onChain_ok.mp ran
    simp only [count,Call.modify_then,Call.pure_on,EStateM.Result.ok.injEq] at counted
    obtain ⟨rfl,rfl⟩ := counted
    exact ⟨rfl,accepted⟩
  | failure reason =>
    simp only [outcome,count,Call.modify_then] at handled
    obtain ⟨found,repaid,ran,answered⟩ := Call.bind_ok.mp handled
    simp only [Call.pure_on,EStateM.Result.ok.injEq] at answered
    obtain ⟨rfl,rfl⟩ := answered
    obtain ⟨debit,refunded⟩ := refund_ok ran
    exact ⟨rfl,debit,refunded⟩

end TokenTransfer.Host
