import TokenTransfer.Proofs.Acknowledgements
import TokenTransfer.Proofs.Refunds

namespace TokenTransfer

namespace Call
variable {σ α ν : Type} {view : σ → ν}

def after : EStateM.Result TransferError σ α → σ
  | .ok _ next => next
  | .error _ next => next

theorem Keeps.after {call : Call σ α} (keeps : Keeps view call) (state : σ) :
    view (after (call state)) = view state := by
  have kept := keeps state
  cases ran : call state <;> rwa [ran] at kept

end Call

namespace Host
open Call
variable {host : Host} {caller : Address} {packet : Packet} {bytes : Bytes}

theorem step_confirm (success : (Acknowledgement.read bytes).isSuccess = true)
    (transport : caller = host.chain.config.transport) :
    ((host.step (.acknowledge caller packet bytes)).1,(host.step (.acknowledge caller packet bytes)).2.chain) =
      match Chain.confirm packet host.chain with
      | .ok _ next => (.ok .settled,next)
      | .error error next => (.error error,next) := by
  rw [acknowledge_ends,Chain.fromTransport_exact.mpr transport]
  cases outcome : Acknowledgement.read bytes with
  | failure reason => simp [outcome,Acknowledgement.isSuccess] at success
  | success proof =>
    cases Chain.confirm packet host.chain with
    | ok result next => rfl
    | error error next => rfl

theorem step_after (request : Request) : (host.step request).2 = after (request.perform host) := by
  unfold step
  cases request.perform host <;> rfl

-- How many of the packets that were reported on had failed. It goes up on the way to a
-- refund alone, and before anything can stop that, so it tells the ways apart even
-- where both are refused.
def failed (host : Host) : Nat := host.counters (.acknowledged false)

theorem acknowledge_failed (transport : caller = host.chain.config.transport) :
    (host.step (.acknowledge caller packet bytes)).2.failed =
      host.failed + if (Acknowledgement.read bytes).isSuccess then 0 else 1 := by
  rw [acknowledge_ends,Chain.fromTransport_exact.mpr transport]
  cases Acknowledgement.read bytes with
  | success proof =>
    cases Chain.confirm packet host.chain with
    | ok result next => exact host.counters.bumps_count _ _
    | error error next => exact host.counters.bumps_count _ _
  | failure reason =>
    cases Chain.refund packet host.chain with
    | ok result next => exact host.counters.bumps_count _ _
    | error error next => exact host.counters.bumps_count _ _

structure Refunds (host : Host) (packet : Packet) (request : Request) : Prop where
  answer : ((host.step request).1,(host.step request).2.chain) =
    match Chain.refund packet host.chain with
    | .ok (event,_) next => (.ok (.moved event),next)
    | .error error next => (.error error,next)
  counted : (host.step request).2.failed = host.failed + 1

structure Confirms (host : Host) (packet : Packet) (request : Request) : Prop where
  answer : ((host.step request).1,(host.step request).2.chain) =
    match Chain.confirm packet host.chain with
    | .ok _ next => (.ok .settled,next)
    | .error error next => (.error error,next)
  counted : (host.step request).2.failed = host.failed

theorem Confirms.apart {request : Request} (confirms : host.Confirms packet request) :
    ¬host.Refunds packet request := by
  intro refunds
  have counted := confirms.counted.symm.trans refunds.counted
  omega

theorem acknowledge_confirms (success : (Acknowledgement.read bytes).isSuccess = true) :
    host.Confirms packet (.acknowledge host.chain.config.transport packet bytes) where
  answer := step_confirm success rfl
  counted := by rw [acknowledge_failed rfl,if_pos success,Nat.add_zero]

theorem acknowledge_refunds (failure : (Acknowledgement.read bytes).isSuccess = false) :
    host.Refunds packet (.acknowledge host.chain.config.transport packet bytes) where
  answer := step_refund (by simp [Request.refunds?,failure]) rfl
  counted := by rw [acknowledge_failed rfl,if_neg (by simp [failure])]

theorem outcomes_carried :
    (∀ reason, Acknowledgement.read (Acknowledgement.failure reason).write = .failure reason) ∧
    (∀ bytes, Acknowledgement.read (Acknowledgement.read bytes).write = Acknowledgement.read bytes) ∧
    ∀ (outcome : Except TransferError TransferEvent) (near : Host) (packet : Packet),
      let brought := (Acknowledgement.ofOutcome outcome).write
      let report : Request := .acknowledge near.chain.config.transport packet brought
      Acknowledgement.read brought = Acknowledgement.ofOutcome outcome ∧
        (near.Refunds packet report ↔ outcome.isOk = false) ∧ (near.Confirms packet report ↔ outcome.isOk = true) := by
  refine ⟨Acknowledgement.failure_roundtrip,Acknowledgement.read_stable,?_⟩
  intro outcome near packet brought report
  have told : (Acknowledgement.read brought).isSuccess = outcome.isOk := Acknowledgement.outcome_success outcome
  refine ⟨Acknowledgement.outcome_roundtrip outcome,?_⟩
  cases known : outcome.isOk with
  | true =>
    have confirms : near.Confirms packet report := acknowledge_confirms (told.trans known)
    exact ⟨iff_of_false confirms.apart (by simp),iff_of_true confirms rfl⟩
  | false =>
    have refunds : near.Refunds packet report := acknowledge_refunds (told.trans known)
    exact ⟨iff_of_true refunds rfl,iff_of_false (fun confirms => confirms.apart refunds) (by simp)⟩

end Host
end TokenTransfer
