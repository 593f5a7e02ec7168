import TokenTransfer.Error

namespace TokenTransfer

inductive Reception where
  | minted
  | released
  | refused
deriving DecidableEq

inductive Charge where
  | burn
  | escrow
deriving DecidableEq

inductive Trigger where
  | acknowledgement
  | timeout
deriving DecidableEq

inductive Mechanism where
  | mint
  | release
deriving DecidableEq

inductive EntryPoint where
  | acknowledge
  | receive
  | send
  | timeout
deriving DecidableEq

inductive Series where
  | acknowledged (success : Bool)
  | called (entry : EntryPoint)
  | failed (kind : ErrorKind)
  | received (reception : Reception)
  | sent (charge : Charge)
  | refunded (trigger : Trigger) (mechanism : Mechanism)
deriving DecidableEq

abbrev Counters := Series → Nat

namespace Counters

def none : Counters := fun _ => 0

def bump (counters : Counters) (series : Series) : Counters := fun other =>
  if other = series then counters other + 1 else counters other

theorem bump_same (counters : Counters) (series : Series) : counters.bump series series = counters series + 1 := by
  simp [bump]

theorem bump_other (counters : Counters) (series other : Series) (different : other ≠ series) :
    counters.bump series other = counters other := by
  simp [bump,different]

theorem bumps_count (counters : Counters) (marks : List Series) (series : Series) :
    marks.foldl bump counters series = counters series + marks.count series := by
  induction marks generalizing counters with
  | nil => rfl
  | cons first rest ih =>
    rw [List.foldl_cons,ih,List.count_cons]
    by_cases same : first = series
    · subst same
      rw [bump_same]
      simp only [beq_self_eq_true,if_true]
      omega
    · rw [bump_other _ _ _ (Ne.symm same)]
      simp [same]

end Counters
end TokenTransfer
