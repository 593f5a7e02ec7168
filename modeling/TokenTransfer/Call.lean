import TokenTransfer.Error

namespace TokenTransfer

-- A call on some state. What was written before a failure stays written, so
-- that a failed call leaves no trace is a fact about each call, not about this type.
abbrev Call (σ α : Type) := EStateM TransferError σ α

namespace Call

def check {σ α : Type} : Except TransferError α → Call σ α
  | .ok value => pure value
  | .error error => throw error

def need {σ α : Type} (error : TransferError) : Option α → Call σ α
  | some value => pure value
  | none => throw error

def within {σ τ α : Type} (part : σ → τ) (store : σ → τ → σ) (call : Call τ α) : Call σ α := fun state =>
  match call (part state) with
  | .ok value inner => .ok value (store state inner)
  | .error error inner => .error error (store state inner)

def amend {σ α : Type} (change : TransferError → TransferError) (call : Call σ α) : Call σ α := fun state =>
  match call state with
  | .ok value next => .ok value next
  | .error error next => .error (change error) next

variable {σ α β : Type}

@[simp] theorem pure_on (value : α) (state : σ) : (pure value : Call σ α) state = .ok value state := rfl

@[simp] theorem get_on (state : σ) : (get : Call σ σ) state = .ok state state := rfl

@[simp] theorem modify_on (change : σ → σ) (state : σ) :
    (modify change : Call σ PUnit) state = .ok ⟨⟩ (change state) := rfl

@[simp] theorem bind_on (first : Call σ α) (next : α → Call σ β) (state : σ) :
    (first >>= next) state =
      match first state with
      | .ok value middle => next value middle
      | .error error middle => .error error middle := by
  simp only [bind, EStateM.bind]
  cases first state <;> rfl

@[simp] theorem check_on (result : Except TransferError α) (state : σ) :
    check result state =
      match result with
      | .ok value => .ok value state
      | .error error => .error error state := by
  cases result <;> rfl

@[simp] theorem need_on (error : TransferError) (found : Option α) (state : σ) :
    need error found state =
      match found with
      | some value => .ok value state
      | none => .error error state := by
  cases found <;> rfl

end Call
end TokenTransfer
