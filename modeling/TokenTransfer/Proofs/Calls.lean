import TokenTransfer.Call

namespace TokenTransfer.Call
variable {σ τ ν α β : Type} {view : σ → ν}

-- What a call may do to one view of the state. A call that keeps the view never
-- moves it; a traceless call may move it, but only when it succeeds.
def Keeps (view : σ → ν) (call : Call σ α) : Prop :=
  ∀ state, match call state with
    | .ok _ next => view next = view state
    | .error _ next => view next = view state

def Traceless (view : σ → ν) (call : Call σ α) : Prop :=
  ∀ state error next, call state = .error error next → view next = view state

def Succeeds (call : Call σ α) : Prop := ∀ state, ∃ value next, call state = .ok value next

theorem keeps_check (result : Except TransferError α) : Keeps view (check result : Call σ α) := by
  intro state
  cases result <;> rfl

theorem keeps_need (error : TransferError) (found : Option α) : Keeps view (need error found : Call σ α) := by
  intro state
  cases found <;> rfl

theorem keeps_get : Keeps view (get : Call σ σ) := fun _ => rfl

theorem keeps_modify {change : σ → σ} (kept : ∀ state, view (change state) = view state) :
    Keeps view (modify change : Call σ PUnit) := kept

theorem keeps_pure (value : α) : Keeps view (pure value : Call σ α) := fun _ => rfl

theorem Keeps.bind {first : Call σ α} {next : α → Call σ β} (one : Keeps view first)
    (two : ∀ value, Keeps view (next value)) : Keeps view (first >>= next) := by
  intro state
  have kept := one state
  rw [bind_on]
  cases ran : first state with
  | ok value middle =>
    rw [ran] at kept
    have last := two value middle
    dsimp only at kept ⊢
    rwa [kept] at last
  | error reason middle =>
    rw [ran] at kept
    exact kept

theorem keeps_modify_then {change : σ → σ} {value : α} (kept : ∀ state, view (change state) = view state) :
    Keeps view (modify change >>= fun _ => pure value : Call σ α) :=
  (keeps_modify kept).bind fun _ => keeps_pure value

theorem Keeps.inside {μ : Type} {part : σ → τ} {store : σ → τ → σ} {call : Call τ α} {seen : τ → μ}
    (keeps : Keeps seen call)
    (same : ∀ state inner, seen inner = seen (part state) → view (store state inner) = view state) :
    Keeps view (within part store call) := by
  intro state
  have kept := keeps (part state)
  unfold Call.within
  cases ran : call (part state) with
  | ok value inner =>
    rw [ran] at kept
    exact same state inner kept
  | error reason inner =>
    rw [ran] at kept
    exact same state inner kept

theorem Keeps.within {part : σ → τ} {store : σ → τ → σ} {call : Call τ α} {seen : τ → ν}
    (keeps : Keeps seen call) (same : ∀ state inner, view (store state inner) = seen inner)
    (shown : ∀ state, view state = seen (part state)) : Keeps view (within part store call) :=
  keeps.inside fun state inner kept => (same state inner).trans (kept.trans (shown state).symm)

theorem keeps_within {part : σ → τ} {store : σ → τ → σ} (call : Call τ α)
    (apart : ∀ state inner, view (store state inner) = view state) : Keeps view (within part store call) := by
  have nothing : Keeps (fun _ => ()) call := fun state => by cases call state <;> rfl
  exact nothing.inside fun state inner _ => apart state inner

theorem Keeps.amend {call : Call σ α} (keeps : Keeps view call) (change : TransferError → TransferError) :
    Keeps view (amend change call) := by
  intro state
  have kept := keeps state
  unfold Call.amend
  cases ran : call state with
  | ok value next => rwa [ran] at kept
  | error reason next => rwa [ran] at kept

theorem Keeps.map {call : Call σ α} (keeps : Keeps view call) (f : α → β) : Keeps view (f <$> call) := by
  rw [map_eq_pure_bind]
  exact keeps.bind fun value => keeps_pure (f value)

theorem Keeps.weaken {call : Call σ α} {μ : Type} {coarse : σ → μ} (keeps : Keeps view call)
    (seen : ∀ a b, view a = view b → coarse a = coarse b) : Keeps coarse call := by
  intro state
  have kept := keeps state
  cases ran : call state with
  | ok value next => rw [ran] at kept; exact seen _ _ kept
  | error reason next => rw [ran] at kept; exact seen _ _ kept

theorem Keeps.ok {call : Call σ α} {state next : σ} {value : α} (keeps : Keeps view call)
    (ran : call state = .ok value next) : view next = view state := by
  have kept := keeps state
  rwa [ran] at kept

theorem succeeds_pure (value : α) : Succeeds (pure value : Call σ α) := fun state => ⟨value,state,rfl⟩

theorem succeeds_modify (change : σ → σ) : Succeeds (modify change : Call σ PUnit) :=
  fun state => ⟨⟨⟩,change state,rfl⟩

theorem Succeeds.bind {first : Call σ α} {next : α → Call σ β} (one : Succeeds first)
    (two : ∀ value, Succeeds (next value)) : Succeeds (first >>= next) := by
  intro state
  obtain ⟨value,middle,ran⟩ := one state
  obtain ⟨result,last,finished⟩ := two value middle
  exact ⟨result,last,by rw [bind_on,ran]; exact finished⟩

theorem Succeeds.traceless {call : Call σ α} (succeeds : Succeeds call) : Traceless view call := by
  intro state error next failed
  obtain ⟨value,last,ran⟩ := succeeds state
  rw [ran] at failed
  cases failed

theorem traceless_modify (change : σ → σ) : Traceless view (modify change : Call σ PUnit) :=
  (succeeds_modify change).traceless

-- The two ways in which a sequence stays traceless: what comes first only
-- looks, or nothing behind it can fail.
theorem Keeps.then {first : Call σ α} {next : α → Call σ β} (looks : Keeps view first)
    (traceless : ∀ value, Traceless view (next value)) : Traceless view (first >>= next) := by
  intro state error last failed
  have kept := looks state
  rw [bind_on] at failed
  cases ran : first state with
  | ok value middle =>
    simp only [ran] at failed kept
    exact (traceless value middle error last failed).trans kept
  | error reason middle =>
    simp only [ran] at failed kept
    cases failed
    exact kept

theorem Traceless.then {first : Call σ α} {next : α → Call σ β} (traceless : Traceless view first)
    (safe : ∀ value, Succeeds (next value)) : Traceless view (first >>= next) := by
  intro state error last failed
  rw [bind_on] at failed
  cases ran : first state with
  | ok value middle =>
    simp only [ran] at failed
    exact absurd failed (by obtain ⟨result,done,ended⟩ := safe value middle; simp [ended])
  | error reason middle =>
    simp only [ran] at failed
    cases failed
    exact traceless state _ _ ran

theorem Traceless.map {call : Call σ α} (traceless : Traceless view call) (f : α → β) :
    Traceless view (f <$> call) := by
  rw [map_eq_pure_bind]
  exact traceless.then fun value => succeeds_pure (f value)

theorem Traceless.amend {call : Call σ α} (traceless : Traceless view call)
    (change : TransferError → TransferError) : Traceless view (amend change call) := by
  intro state error next failed
  unfold Call.amend at failed
  split at failed
  · cases failed
  · rename_i reason last ran
    cases failed
    exact traceless _ _ _ ran

theorem Traceless.within {part : σ → τ} {store : σ → τ → σ} {call : Call τ α}
    (traceless : Traceless id call) (same : ∀ state, store state (part state) = state) :
    Traceless id (within part store call) := by
  intro state error next failed
  unfold Call.within at failed
  split at failed
  · cases failed
  · rename_i reason inner ran
    cases failed
    have kept : inner = part state := traceless _ _ _ ran
    rw [kept]
    exact same state

theorem Traceless.viewed {call : Call σ α} (traceless : Traceless id call) : Traceless view call := by
  intro state error next failed
  exact congrArg view (traceless state error next failed)

theorem within_ok {part : σ → τ} {store : σ → τ → σ} {call : Call τ α} {state next : σ} {value : α} :
    within part store call state = .ok value next ↔
      ∃ inner, call (part state) = .ok value inner ∧ next = store state inner := by
  unfold Call.within
  cases call (part state) with
  | ok found inner => simp [eq_comm,and_assoc]
  | error reason inner => simp

theorem amend_ok {change : TransferError → TransferError} {call : Call σ α} {state next : σ} {value : α} :
    amend change call state = .ok value next ↔ call state = .ok value next := by
  unfold Call.amend
  cases call state <;> simp

theorem bind_ok {first : Call σ α} {rest : α → Call σ β} {state next : σ} {value : β} :
    (first >>= rest) state = .ok value next ↔
      ∃ found middle, first state = .ok found middle ∧ rest found middle = .ok value next := by
  rw [bind_on]
  cases first state with
  | ok found middle => simp [and_assoc]
  | error reason middle => simp

@[simp] theorem get_then (rest : σ → Call σ β) (state : σ) : (get >>= rest) state = rest state state := by
  rw [bind_on,get_on]

@[simp] theorem modify_then (change : σ → σ) (rest : PUnit → Call σ β) (state : σ) :
    (modify change >>= rest) state = rest ⟨⟩ (change state) := by
  rw [bind_on,modify_on]

theorem check_then {result : Except TransferError α} {rest : α → Call σ β} {state next : σ} {value : β} :
    (check result >>= rest) state = .ok value next ↔
      ∃ found, result = .ok found ∧ rest found state = .ok value next := by
  cases result <;> simp

theorem need_then {error : TransferError} {found : Option α} {rest : α → Call σ β} {state next : σ} {value : β} :
    (need error found >>= rest) state = .ok value next ↔
      ∃ present, found = some present ∧ rest present state = .ok value next := by
  cases found <;> simp

section fails
variable {kinds more : List ErrorKind} {state : σ}

def Fails (kinds : List ErrorKind) (call : Call σ α) (state : σ) : Prop :=
  ∀ error next, call state = .error error next → error.kind ∈ kinds

theorem Fails.wider {call : Call σ α} (fails : Fails kinds call state) (among : kinds ⊆ more) : Fails more call state :=
  fun error next failed => among (fails error next failed)

theorem Succeeds.fails {call : Call σ α} (succeeds : Succeeds call) : Fails kinds call state := by
  intro error next failed
  obtain ⟨value,last,ran⟩ := succeeds state
  rw [ran] at failed
  cases failed

theorem fails_check {result : Except TransferError α} (told : ∀ error, result = .error error → error.kind ∈ kinds) :
    Fails kinds (check result : Call σ α) state := by
  intro error next failed
  rw [check_on] at failed
  cases result with
  | ok value => cases failed
  | error reason =>
    cases failed
    exact told _ rfl

theorem fails_need {reason : TransferError} {found : Option α} (told : reason.kind ∈ kinds) :
    Fails kinds (need reason found : Call σ α) state := by
  intro error next failed
  rw [need_on] at failed
  cases found with
  | some value => cases failed
  | none =>
    cases failed
    exact told

theorem Fails.bind {first : Call σ α} {rest : α → Call σ β} (one : Fails kinds first state)
    (two : ∀ value middle, first state = .ok value middle → Fails kinds (rest value) middle) :
    Fails kinds (first >>= rest) state := by
  intro error next failed
  rw [bind_on] at failed
  cases ran : first state with
  | ok value middle =>
    rw [ran] at failed
    exact two value middle ran error next failed
  | error reason middle =>
    rw [ran] at failed
    cases failed
    exact one _ _ ran

theorem Fails.got {rest : σ → Call σ β} (fails : Fails kinds (rest state) state) : Fails kinds (get >>= rest) state := by
  intro error next failed
  rw [get_then] at failed
  exact fails error next failed

theorem Fails.checked {result : Except TransferError α} {rest : α → Call σ β}
    (told : ∀ error, result = .error error → error.kind ∈ kinds)
    (fails : ∀ value, result = .ok value → Fails kinds (rest value) state) :
    Fails kinds (check result >>= rest) state := by
  refine (fails_check told).bind ?_
  intro value middle ran
  rw [check_on] at ran
  cases result with
  | ok found =>
    cases ran
    exact fails _ rfl
  | error reason => cases ran

theorem Fails.within {part : σ → τ} {store : σ → τ → σ} {call : Call τ α} (fails : Fails kinds call (part state)) :
    Fails kinds (within part store call) state := by
  intro error next failed
  unfold Call.within at failed
  split at failed
  · cases failed
  · rename_i reason inner ran
    cases failed
    exact fails _ _ ran

theorem Fails.amend {call : Call σ α} {change : TransferError → TransferError} (fails : Fails kinds call state)
    (told : ∀ error, error.kind ∈ kinds → (change error).kind ∈ more) : Fails more (amend change call) state := by
  intro error next failed
  unfold Call.amend at failed
  split at failed
  · cases failed
  · rename_i reason last ran
    cases failed
    exact told reason (fails _ _ ran)

end fails

section stops
variable {error : TransferError} {state : σ}

def Stops (error : TransferError) (call : Call σ α) (state : σ) : Prop := ∃ next, call state = .error error next

theorem stops_check {check : σ → Except TransferError β} {rest : σ → β → Call σ α}
    (refused : check state = .error error) :
    Stops error (get >>= fun state => Call.check (check state) >>= rest state) state := by
  refine ⟨state,?_⟩
  rw [get_then,bind_on,check_on,refused]

theorem Stops.bind {first : Call σ α} {rest : α → Call σ β} (stops : Stops error first state) :
    Stops error (first >>= rest) state := by
  obtain ⟨next,failed⟩ := stops
  exact ⟨next,by rw [bind_on,failed]⟩

theorem Stops.map {call : Call σ α} (stops : Stops error call state) (f : α → β) : Stops error (f <$> call) state := by
  rw [map_eq_pure_bind]
  exact stops.bind

theorem Stops.within {part : σ → τ} {store : σ → τ → σ} {call : Call τ α} (stops : Stops error call (part state)) :
    Stops error (within part store call) state := by
  obtain ⟨inner,failed⟩ := stops
  exact ⟨store state inner,by unfold Call.within; rw [failed]⟩

end stops

section follows

def shown (view : σ → ν) : EStateM.Result TransferError σ α → Except TransferError α × ν
  | .ok value next => (.ok value,view next)
  | .error error next => (.error error,view next)

-- A call that goes by nothing but the view: from states that look the same it
-- answers the same, and leaves states that look the same.
def Follows (view : σ → ν) (call : Call σ α) : Prop :=
  ∀ one two, view one = view two → shown view (call one) = shown view (call two)

theorem follows_pure (value : α) : Follows view (pure value : Call σ α) := by
  intro one two same
  simp only [pure_on,shown,same]

theorem follows_check (result : Except TransferError α) : Follows view (check result : Call σ α) := by
  intro one two same
  cases result <;> simp only [check_on,shown,same]

theorem follows_modify {change : σ → σ} (same : ∀ one two, view one = view two → view (change one) = view (change two)) :
    Follows view (modify change : Call σ PUnit) := by
  intro one two alike
  simp only [modify_on,shown,same one two alike]

theorem Follows.bind {first : Call σ α} {next : α → Call σ β} (follows : Follows view first)
    (rest : ∀ value, Follows view (next value)) : Follows view (first >>= next) := by
  intro one two same
  have alike := follows one two same
  rw [bind_on,bind_on]
  cases ran : first one with
  | ok value middle =>
    cases again : first two with
    | ok other last =>
      simp only [ran,again,shown,Prod.mk.injEq,Except.ok.injEq] at alike
      obtain ⟨rfl,looks⟩ := alike
      exact rest value middle last looks
    | error reason last => simp [ran,again,shown] at alike
  | error reason middle =>
    cases again : first two with
    | ok other last => simp [ran,again,shown] at alike
    | error other last =>
      simp only [ran,again,shown,Prod.mk.injEq,Except.error.injEq] at alike
      simp only [shown,alike]

theorem Follows.map {call : Call σ α} (follows : Follows view call) (f : α → β) : Follows view (f <$> call) := by
  rw [map_eq_pure_bind]
  exact follows.bind fun value => follows_pure (f value)

theorem Follows.got {rest : σ → Call σ α} (same : ∀ one two, view one = view two → rest one = rest two)
    (follows : ∀ state, Follows view (rest state)) : Follows view (get >>= rest) := by
  intro one two alike
  rw [get_then,get_then,same one two alike]
  exact follows two one two alike

theorem follows_within {part : σ → τ} {store : σ → τ → σ} (call : Call τ α)
    (stored : ∀ state inner, part (store state inner) = inner) : Follows part (within part store call) := by
  intro one two same
  unfold Call.within
  rw [same]
  cases call (part two) <;> simp only [shown,stored]

end follows

end TokenTransfer.Call
