import TokenTransfer.Proofs.Atomicity

namespace TokenTransfer

namespace Host
variable {host next : Host} {caller : Address} {order : TransferOrder} {packet : Packet} {reply : Reply} {bytes : Bytes}

theorem step_ok {request : Request} : host.step request = (.ok reply,next) ↔ request.perform host = .ok reply next := by
  unfold Host.step
  cases request.perform host <;> simp

theorem step_granted {request : Request} (granted : (host.step request).1.isOk = true) :
    ∃ reply, host.step request = (.ok reply,(host.step request).2) := by
  cases stepped : host.step request with
  | mk answer next =>
    rw [stepped] at granted
    cases answer with
    | ok reply => exact ⟨reply,rfl⟩
    | error error => cases granted

theorem step_error {request : Request} {error : TransferError} (refused : host.step request = (.error error,next)) :
    next.chain = host.chain := by
  unfold Host.step at refused
  cases ran : request.perform host with
  | ok reply last => rw [ran] at refused; cases refused
  | error reason last =>
    rw [ran] at refused
    cases refused
    exact Request.perform_traceless request host _ _ ran

def behind (host : Host) (chain : Chain) (marks : List Series) : Host := ⟨chain,marks.foldl Counters.bump host.counters⟩

theorem receive_ends (host : Host) (caller : Address) (packet : Packet) :
    host.step (.receive caller packet) =
      match Chain.receive caller packet host.chain with
      | .ok event chain => (.ok (.moved event),host.behind chain [.received (receptionOf event),.called .receive])
      | .error error chain =>
        (.error error,host.behind chain [.received .refused,.failed error.kind,.called .receive]) := by
  unfold step
  simp only [Request.perform,map_eq_pure_bind,Call.bind_on,receive,observed,onChain,Call.within]
  cases Chain.receive caller packet host.chain with
  | ok event chain => rfl
  | error error chain => rfl

theorem send_ends (host : Host) (caller : Address) (order : TransferOrder) :
    host.step (.send caller order) =
      match Chain.send caller order host.chain with
      | .ok sent chain => (.ok (.sent sent),host.behind chain [.sent (chargeOf sent.event),.called .send])
      | .error error chain => (.error error,host.behind chain [.failed error.kind,.called .send]) := by
  unfold step
  simp only [Request.perform,map_eq_pure_bind,Call.bind_on,send,observed,onChain,Call.within]
  cases Chain.send caller order host.chain with
  | ok sent chain => rfl
  | error error chain => rfl

theorem timeout_ends (host : Host) (caller : Address) (packet : Packet) :
    host.step (.timeout caller packet) =
      match host.chain.fromTransport caller with
      | .error error => (.error error,host.behind host.chain [.failed error.kind,.called .timeout])
      | .ok _ =>
        match Chain.refund packet host.chain with
        | .ok (event,debit) chain =>
          (.ok (.moved event),host.behind chain [.refunded .timeout (mechanismOf debit),.called .timeout])
        | .error error chain => (.error error,host.behind chain [.failed error.kind,.called .timeout]) := by
  unfold step
  simp only [Request.perform,map_eq_pure_bind,Call.bind_on,timeout,observed,Call.get_on,Call.check_on]
  cases host.chain.fromTransport caller with
  | error error => rfl
  | ok admitted =>
    simp only [refund,Call.bind_on,onChain,Call.within]
    cases Chain.refund packet host.chain with
    | ok answer chain => rfl
    | error error chain => rfl

theorem acknowledge_ends (host : Host) (caller : Address) (packet : Packet) (bytes : Bytes) :
    host.step (.acknowledge caller packet bytes) =
      match host.chain.fromTransport caller,Acknowledgement.read bytes with
      | .error error,_ => (.error error,host.behind host.chain [.failed error.kind,.called .acknowledge])
      | .ok _,.success _ =>
        match Chain.confirm packet host.chain with
        | .ok _ chain => (.ok .settled,host.behind chain [.acknowledged true,.called .acknowledge])
        | .error error chain => (.error error,host.behind chain [.failed error.kind,.called .acknowledge])
      | .ok _,.failure _ =>
        match Chain.refund packet host.chain with
        | .ok (event,debit) chain => (.ok (.moved event),host.behind chain
            [.acknowledged false,.refunded .acknowledgement (mechanismOf debit),.called .acknowledge])
        | .error error chain =>
          (.error error,host.behind chain [.acknowledged false,.failed error.kind,.called .acknowledge]) := by
  unfold step
  simp only [Request.perform,map_eq_pure_bind,Call.bind_on,acknowledge,observed,Call.get_on,Call.check_on]
  cases host.chain.fromTransport caller with
  | error error => rfl
  | ok admitted =>
    cases Acknowledgement.read bytes with
    | success proof =>
      simp only [Call.bind_on,onChain,Call.within]
      cases Chain.confirm packet host.chain with
      | ok settled chain => rfl
      | error error chain => rfl
    | failure reason =>
      simp only [count,Call.modify_on,refund,Call.bind_on,onChain,Call.within]
      cases Chain.refund packet host.chain with
      | ok answer chain => rfl
      | error error chain => rfl

theorem step_send (answered : host.step (.send caller order) = (.ok reply,next)) :
    ∃ sent, reply = .sent sent ∧ Chain.send caller order host.chain = .ok sent next.chain := by
  have ran := step_ok.mp answered
  simp only [Request.perform,map_eq_pure_bind] at ran
  obtain ⟨sent,middle,departed,told⟩ := Call.bind_ok.mp ran
  cases told
  exact ⟨sent,rfl,send_ok departed⟩

theorem step_receive (answered : host.step (.receive caller packet) = (.ok reply,next)) :
    ∃ event, reply = .moved event ∧ Chain.receive caller packet host.chain = .ok event next.chain := by
  have ran := step_ok.mp answered
  simp only [Request.perform,map_eq_pure_bind] at ran
  obtain ⟨event,middle,received,told⟩ := Call.bind_ok.mp ran
  cases told
  exact ⟨event,rfl,receive_ok received⟩

theorem step_timeout (answered : host.step (.timeout caller packet) = (.ok reply,next)) :
    ∃ event debit, reply = .moved event ∧ Chain.refund packet host.chain = .ok (event,debit) next.chain := by
  have ran := step_ok.mp answered
  simp only [Request.perform,map_eq_pure_bind] at ran
  obtain ⟨event,middle,expired,told⟩ := Call.bind_ok.mp ran
  cases told
  obtain ⟨_,debit,refunded⟩ := timeout_ok expired
  exact ⟨event,debit,rfl,refunded⟩

theorem step_acknowledge (answered : host.step (.acknowledge caller packet bytes) = (.ok reply,next)) :
    (Acknowledgement.read bytes).isSuccess = true ∧ reply = .settled ∧
        Chain.confirm packet host.chain = .ok () next.chain ∨
      (Acknowledgement.read bytes).isSuccess = false ∧ ∃ event debit, reply = .moved event ∧
        Chain.refund packet host.chain = .ok (event,debit) next.chain := by
  have ran := step_ok.mp answered
  simp only [Request.perform,map_eq_pure_bind] at ran
  obtain ⟨answer,middle,settled,told⟩ := Call.bind_ok.mp ran
  cases told
  obtain ⟨_,outcome⟩ := acknowledge_ok settled
  cases answer with
  | none => exact .inl ⟨outcome.1,rfl,outcome.2⟩
  | some event =>
    obtain ⟨failed,debit,refunded⟩ := outcome
    exact .inr ⟨failed,event,debit,rfl,refunded⟩

end Host
end TokenTransfer
