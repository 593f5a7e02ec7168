import Mathlib.Data.List.Induction
import TokenTransfer.Proofs.SettledOnce

namespace TokenTransfer

namespace Sequence
open SettledWindow
variable {sequence : UInt64}

def last : UInt64 := .ofNat (UInt64.size - 1)

theorem last_exact : ¬Inner sequence ↔ sequence = last := by
  have bound := sequence.toNat_lt_size
  have final : last.toNat + 1 = UInt64.size := by decide
  unfold SettledWindow.Inner
  rw [← UInt64.toNat_inj]
  omega

theorem next_rises (sequence : UInt64) : sequence ≤ next sequence := by
  by_cases inner : Inner sequence
  · rw [UInt64.le_iff_toNat_le,next_toNat inner]
    exact Nat.le_succ _
  · have stays : next sequence = sequence := if_neg inner
    rw [stays]
    exact UInt64.le_refl _

theorem next_passes (inner : Inner sequence) : sequence < next sequence := by
  rw [UInt64.lt_iff_toNat_lt,next_toNat inner]
  exact Nat.lt_succ_self _

end Sequence

def Host.confirmation (sequence : UInt64) : Request :=
  .acknowledge relay {reported with sequence := sequence} Acknowledgement.standard.write

namespace SettledWindow
variable {window drained other : SettledWindow} {sequence value : UInt64} {values passed : List UInt64}

theorem erase_ascending (window : SettledWindow) : (window.ahead.erase window.watermark).Pairwise (· < ·) :=
  window.ascending.sublist List.erase_sublist

def turned (window : SettledWindow) : SettledWindow :=
  ⟨Sequence.next window.watermark,window.ahead.erase window.watermark,erase_ascending window⟩

inductive Drains : SettledWindow → SettledWindow → Prop
  | stop {window : SettledWindow} (clear : window.watermark ∉ window.ahead) : Drains window window
  | turn {window drained : SettledWindow} (listed : window.watermark ∈ window.ahead)
      (rest : Drains window.turned drained) : Drains window drained

theorem mem_turned : sequence ∈ window.turned.ahead ↔ sequence ≠ window.watermark ∧ sequence ∈ window.ahead :=
  (ascending_distinct window.ascending).mem_erase_iff

theorem Drains.unique (drains : Drains window drained) (again : Drains window other) : other = drained := by
  induction drains with
  | stop clear =>
    cases again with
    | stop => rfl
    | turn listed => exact absurd listed clear
  | turn listed rest ih =>
    cases again with
    | stop clear => exact absurd listed clear
    | turn _ rest' => exact ih rest'

-- Each turn takes one sequence off the list, so that the steps of an advance are enough.
theorem advance_drains {steps : Nat} (enough : window.ahead.length ≤ steps) : Drains window (advance steps window) := by
  induction steps generalizing window with
  | zero =>
    have empty : window.ahead = [] := List.length_eq_zero_iff.mp (Nat.le_zero.mp enough)
    exact .stop (empty ▸ List.not_mem_nil)
  | succ steps ih =>
    rw [advance]
    split
    · rename_i listed
      have shorter : window.turned.ahead.length = window.ahead.length - 1 := List.length_erase_of_mem listed
      exact .turn listed (ih (by omega))
    · rename_i clear
      exact .stop clear

theorem Drains.rises (drains : Drains window drained) : window.watermark ≤ drained.watermark := by
  induction drains with
  | stop => exact UInt64.le_refl _
  | turn listed rest ih => exact UInt64.le_trans (Sequence.next_rises _) ih

theorem Drains.passes (drains : Drains window drained) (reached : window.watermark ≤ sequence)
    (below : sequence < drained.watermark) : sequence ∈ window.ahead := by
  induction drains with
  | stop => exact absurd below (UInt64.not_lt.mpr reached)
  | @turn window drained listed rest ih =>
    by_cases here : sequence = window.watermark
    · exact here ▸ listed
    · have beyond : Sequence.next window.watermark ≤ sequence := by
        refine UInt64.not_lt.mp fun missed => ?_
        rcases lt_next_only missed with smaller | same
        · exact UInt64.not_lt.mpr reached smaller
        · exact here same
      exact (mem_turned.mp (ih beyond below)).2

theorem Drains.leaves (drains : Drains window drained) : sequence ∈ drained.ahead ↔
    sequence ∈ window.ahead ∧ (sequence < window.watermark ∨ drained.watermark < sequence) := by
  induction drains with
  | @stop window clear =>
    have apart : sequence ∈ window.ahead → sequence ≠ window.watermark := fun listed same => clear (same ▸ listed)
    grind
  | @turn window drained listed rest ih =>
    have rises : window.watermark ≤ Sequence.next window.watermark := Sequence.next_rises _
    have higher : Sequence.next window.watermark ≤ drained.watermark := rest.rises
    have only : sequence < Sequence.next window.watermark → sequence < window.watermark ∨ sequence = window.watermark :=
      lt_next_only
    rw [ih,mem_turned]
    show (_ ∧ _) ∧ (sequence < Sequence.next window.watermark ∨ _) ↔ _
    grind

-- The watermark comes to rest on a listed sequence only where it can go no further.
theorem Drains.rests (drains : Drains window drained) (listed : drained.watermark ∈ window.ahead) :
    ¬Inner drained.watermark := by
  induction drains with
  | stop clear => exact absurd listed clear
  | @turn window drained _ rest ih =>
    by_cases here : drained.watermark = window.watermark
    · intro inner
      have higher : Sequence.next window.watermark ≤ drained.watermark := rest.rises
      rw [here] at higher inner
      exact UInt64.not_lt.mpr higher (Sequence.next_passes inner)
    · exact ih (mem_turned.mpr ⟨here,listed⟩)

theorem entry_ascending (window : SettledWindow) (value : UInt64) :
    (Sequence.insert value window.ahead).Pairwise (· < ·) := Sequence.insert_ascending value window.ascending

def entered (window : SettledWindow) (value : UInt64) : SettledWindow :=
  ⟨window.watermark,Sequence.insert value window.ahead,entry_ascending window value⟩

theorem mem_entered : sequence ∈ (window.entered value).ahead ↔ sequence = value ∨ sequence ∈ window.ahead :=
  Sequence.mem_insert

theorem insert_drains (window : SettledWindow) (value : UInt64) : Drains (window.entered value) (window.insert value) :=
  advance_drains (Nat.le_refl _)

def fill (window : SettledWindow) (values : List UInt64) : SettledWindow := values.foldl SettledWindow.insert window

def late : SettledWindow → List UInt64 → List UInt64
  | _,[] => []
  | window,value :: rest =>
    if value < window.watermark then value :: late (window.insert value) rest else late (window.insert value) rest

theorem fill_append (window : SettledWindow) (earlier later : List UInt64) :
    window.fill (earlier ++ later) = (window.fill earlier).fill later := List.foldl_append

theorem late_append (window : SettledWindow) (earlier later : List UInt64) :
    window.late (earlier ++ later) = window.late earlier ++ (window.fill earlier).late later := by
  induction earlier generalizing window with
  | nil => rfl
  | cons value rest ih =>
    have behind := ih (window.insert value)
    rw [List.cons_append,late,late]
    split
    · rw [behind]
      rfl
    · exact behind

theorem mem_late_one : sequence ∈ window.late [value] ↔ sequence = value ∧ sequence < window.watermark := by
  rw [late,late]
  split
  · rename_i passed
    rw [List.mem_singleton]
    exact ⟨fun same => ⟨same,same ▸ passed⟩,And.left⟩
  · rename_i ahead
    exact ⟨nofun,fun parts => absurd (parts.1 ▸ parts.2) ahead⟩

-- What a window that was filled with these values looks like, of which these were late:
-- the watermark stands at the first gap, or at the end of all sequences.
structure Filled (values passed : List UInt64) (window : SettledWindow) : Prop where
  positive : window.watermark ≠ 0
  behind : ∀ sequence, sequence ≠ 0 → sequence < window.watermark → sequence ∈ values
  gap : window.watermark ∈ values → ¬Inner window.watermark
  listed : ∀ sequence, sequence ∈ window.ahead ↔
    sequence ∈ values ∧ window.watermark < sequence ∨ sequence ∈ passed
  low : ∀ sequence ∈ passed, sequence ∈ values ∧ sequence < window.watermark

theorem Filled.given (filled : Filled values passed window) (listed : sequence ∈ window.ahead) : sequence ∈ values := by
  rcases (filled.listed sequence).mp listed with ahead | before
  · exact ahead.1
  · exact (filled.low sequence before).1

theorem new_filled : Filled [] [] .new := by
  refine ⟨by decide,?_,nofun,by simp [new],nofun⟩
  intro sequence positive below
  rw [UInt64.lt_iff_toNat_lt] at below
  exact absurd (UInt64.toNat_inj.mp (Nat.lt_one_iff.mp below)) positive

section
variable (filled : Filled values passed window)
include filled

theorem Filled.put (inside : sequence ∈ (window.entered value).ahead) : sequence ∈ values ++ [value] := by
  rcases mem_entered.mp inside with same | listed
  · exact List.mem_append_right _ (List.mem_singleton.mpr same)
  · exact List.mem_append_left _ (filled.given listed)

theorem Filled.insert_gap (present : (window.insert value).watermark ∈ values ++ [value]) :
    ¬Inner (window.insert value).watermark := by
  have drains := insert_drains window value
  rcases List.mem_append.mp present with early | now
  · -- A watermark that has not moved was at a gap before.
    by_cases moved : (window.insert value).watermark = window.watermark
    · rw [moved] at early ⊢
      exact filled.gap early
    · have higher : window.watermark < (window.insert value).watermark :=
        Std.lt_of_le_of_ne drains.rises (Ne.symm moved)
      exact drains.rests (mem_entered.mpr (.inr ((filled.listed _).mpr (.inl ⟨early,higher⟩))))
  · exact drains.rests (mem_entered.mpr (.inl (List.mem_singleton.mp now)))

theorem Filled.insert_listed : sequence ∈ (window.insert value).ahead ↔
    sequence ∈ values ++ [value] ∧ (window.insert value).watermark < sequence ∨
      sequence ∈ passed ++ window.late [value] := by
  have drains := insert_drains window value
  have rises : window.watermark ≤ (window.insert value).watermark := drains.rises
  have listed := filled.listed sequence
  have low := filled.low sequence
  rw [drains.leaves,mem_entered,List.mem_append,List.mem_append,mem_late_one,List.mem_singleton]
  show _ ∧ (sequence < window.watermark ∨ _) ↔ _
  grind

theorem Filled.insert (value : UInt64) :
    Filled (values ++ [value]) (passed ++ window.late [value]) (window.insert value) := by
  have drains := insert_drains window value
  have rises : window.watermark ≤ (window.insert value).watermark := drains.rises
  refine ⟨?_,?_,filled.insert_gap,fun _ => filled.insert_listed,?_⟩
  · intro nothing
    rw [nothing,UInt64.le_iff_toNat_le] at rises
    exact filled.positive (UInt64.toNat_inj.mp (Nat.le_zero.mp rises))
  · intro sequence positive below
    by_cases before : sequence < window.watermark
    · exact List.mem_append_left _ (filled.behind sequence positive before)
    · exact filled.put (drains.passes (UInt64.not_lt.mp before) below)
  · intro sequence inside
    rcases List.mem_append.mp inside with early | now
    · obtain ⟨present,below⟩ := filled.low sequence early
      exact ⟨List.mem_append_left _ present,Std.lt_of_lt_of_le below rises⟩
    · obtain ⟨same,below⟩ := mem_late_one.mp now
      exact ⟨List.mem_append_right _ (List.mem_singleton.mpr same),Std.lt_of_lt_of_le below rises⟩

end

theorem fill_filled (values : List UInt64) : Filled values (new.late values) (new.fill values) := by
  induction values using List.reverseRecOn with
  | nil => exact new_filled
  | append_singleton values value ih =>
    rw [fill_append,late_append]
    exact ih.insert value

theorem Filled.contains (filled : Filled values passed window) :
    window.contains sequence = true ↔ sequence = 0 ∨ sequence ∈ values ∧ sequence ≠ window.watermark := by
  have positive := filled.positive
  have behind := filled.behind sequence
  have listed := filled.listed sequence
  have low := filled.low sequence
  have zero : (0 : UInt64) ≤ window.watermark := UInt64.zero_le
  rw [contains_exact]
  grind

theorem Filled.rests (filled : Filled values passed window) (inner : Inner sequence) (positive : sequence ≠ 0)
    (missing : sequence ∉ values) : Inner window.watermark := by
  by_contra outer
  have stops : window.watermark = Sequence.last := Sequence.last_exact.mp outer
  refine missing (filled.behind sequence positive ?_)
  have final : Sequence.last.toNat + 1 = UInt64.size := by decide
  unfold Inner at inner
  rw [stops,UInt64.lt_iff_toNat_lt]
  omega

theorem fill_exact (values : List UInt64) :
    let window := new.fill values
    window.contains 0 = true ∧
      (∀ sequence, sequence ≠ 0 → Inner sequence → (window.contains sequence = true ↔ sequence ∈ values)) ∧
      (window.contains Sequence.last = true → Sequence.last ∈ values) ∧
      ((∃ gap, gap ≠ 0 ∧ Inner gap ∧ gap ∉ values) → Sequence.last ∈ values →
        window.contains Sequence.last = true) := by
  intro window
  have filled : Filled values (new.late values) window := fill_filled values
  refine ⟨filled.contains.mpr (.inl rfl),?_,?_,?_⟩
  · intro sequence positive inner
    rw [filled.contains]
    constructor
    · intro inside
      exact (inside.resolve_left positive).1
    · intro present
      exact .inr ⟨present,fun here => filled.gap (here ▸ present) (here ▸ inner)⟩
  · intro inside
    exact ((filled.contains.mp inside).resolve_left (by decide)).1
  · intro missing present
    obtain ⟨gap,positive,inner,absent⟩ := missing
    refine filled.contains.mpr (.inr ⟨present,fun here => ?_⟩)
    exact Sequence.last_exact.mpr here.symm (filled.rests inner positive absent)

theorem fill_exact_edges :
    let values := [0,Sequence.last,2]
    (2 : UInt64) ≠ 0 ∧ Inner 2 ∧ (∃ gap, gap ≠ 0 ∧ Inner gap ∧ gap ∉ values) ∧ Sequence.last ∈ values ∧
      (new.fill values).contains 0 = true ∧ (new.fill values).contains 2 = true ∧
      (new.fill values).contains Sequence.last = true := by
  intro values
  have inner : Inner 2 := by decide
  have missing : ∃ gap, gap ≠ 0 ∧ Inner gap ∧ gap ∉ values := ⟨1,by decide,by decide,by decide⟩
  have present : Sequence.last ∈ values := by decide
  have exact' := fill_exact values
  exact ⟨by decide,inner,missing,present,exact'.1,(exact'.2.1 2 (by decide) inner).mpr (by decide),
    exact'.2.2.2 missing present⟩

def everything : List UInt64 := (List.range (UInt64.size - 1)).map fun n => .ofNat (n + 1)

theorem mem_everything (positive : sequence ≠ 0) : sequence ∈ everything := by
  have bound := sequence.toNat_lt_size
  have above : sequence.toNat ≠ 0 := fun nothing => positive (UInt64.toNat_inj.mp nothing)
  refine List.mem_map.mpr ⟨sequence.toNat - 1,List.mem_range.mpr (by omega),?_⟩
  rw [Nat.sub_add_cancel (Nat.pos_of_ne_zero above)]
  exact UInt64.ofNat_toNat

-- Sequence zero is contained though it was never put in: whoever reports on it is told
-- so, once anything else was settled. The last sequence is not contained though it was
-- put in, if all others were before.
theorem edges_inexact :
    ((new.fill [1]).contains 0 = true ∧ (0 : UInt64) ∉ [1]) ∧
      ((new.fill everything).contains Sequence.last = false ∧ Sequence.last ∈ everything) ∧
      ((Host.relayed.run [Host.confirmation 1]).2.step (Host.confirmation 0)).1 =
        .error (.alreadySettled Host.reported.source 0) := by
  have filled := fill_filled everything
  have stops : (new.fill everything).watermark = Sequence.last :=
    Sequence.last_exact.mp (filled.gap (mem_everything filled.positive))
  have forgets : ¬(new.fill everything).contains Sequence.last = true := by
    rw [filled.contains,stops]
    rintro (nothing | parts)
    · exact absurd nothing (by decide)
    · exact parts.2 rfl
  exact ⟨by decide,⟨Bool.eq_false_iff.mpr forgets,mem_everything (by decide)⟩,by decide +kernel⟩

end SettledWindow
end TokenTransfer
