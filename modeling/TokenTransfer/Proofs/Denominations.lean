import Mathlib.Data.List.Basic
import TokenTransfer.Denomination

namespace TokenTransfer.Denomination
variable {place : ChannelEnd} {denom rest : String}

theorem unwrap_exact : unwrap? place denom = some rest ↔ denom = wrap place rest := by
  unfold unwrap? wrap
  rw [Option.map_eq_some_iff,← String.toList_inj,String.toList_append]
  constructor
  · intro parts
    obtain ⟨tail,found,rfl⟩ := parts
    rw [String.toList_ofList]
    exact (List.isPrefixOf?_eq_some_iff_append_eq.mp found).symm
  · intro split
    exact ⟨rest.toList,List.isPrefixOf?_eq_some_iff_append_eq.mpr split.symm,String.ofList_toList⟩

theorem unwrap_wrap (place : ChannelEnd) (denom : String) : unwrap? place (wrap place denom) = some denom :=
  unwrap_exact.mpr rfl

theorem carries_exact : carries place denom = true ↔ ∃ rest, denom = wrap place rest := by
  unfold carries
  rw [Option.isSome_iff_exists]
  exact exists_congr fun _ => unwrap_exact

theorem carries_wrap (place : ChannelEnd) (denom : String) : carries place (wrap place denom) = true :=
  carries_exact.mpr ⟨denom,rfl⟩

theorem wrap_inj {other : String} : wrap place denom = wrap place other ↔ denom = other := by
  constructor
  · intro same
    have back := unwrap_wrap place denom
    rw [same,unwrap_wrap] at back
    exact (Option.some.inj back).symm
  · intro same
    rw [same]

theorem leavesHome_exact : leavesHome place denom = true ↔ carries place denom = false := by
  unfold leavesHome
  cases carries place denom <;> simp

end TokenTransfer.Denomination
