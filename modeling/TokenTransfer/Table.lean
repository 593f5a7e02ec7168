namespace TokenTransfer

-- Finite maps as lists of entries with distinct keys. A key keeps the place
-- where it was first put.
structure Table (κ ν : Type) where
  entries : List (κ × ν)
  distinct : (entries.map Prod.fst).Nodup
deriving DecidableEq

namespace Table
variable {κ ν : Type} [DecidableEq κ]

def empty : Table κ ν := ⟨[],List.nodup_nil⟩

def lookup (key : κ) : List (κ × ν) → Option ν
  | [] => none
  | entry :: rest => if entry.1 = key then some entry.2 else lookup key rest

def replace (key : κ) (value : ν) : List (κ × ν) → List (κ × ν)
  | [] => [(key,value)]
  | entry :: rest => if entry.1 = key then (key,value) :: rest else entry :: replace key value rest

def remove (key : κ) : List (κ × ν) → List (κ × ν)
  | [] => []
  | entry :: rest => if entry.1 = key then rest else entry :: remove key rest

theorem replace_keys (key : κ) (value : ν) (entries : List (κ × ν)) :
    (replace key value entries).map Prod.fst =
      if key ∈ entries.map Prod.fst then entries.map Prod.fst else entries.map Prod.fst ++ [key] := by
  induction entries with
  | nil => simp [replace]
  | cons entry rest ih =>
    by_cases same : entry.1 = key
    · simp [replace,same]
    · have other : key ≠ entry.1 := Ne.symm same
      simp only [replace,same,if_false,List.map_cons,ih,List.mem_cons,other,false_or]
      split <;> simp

theorem remove_sublist (key : κ) (entries : List (κ × ν)) : (remove key entries).Sublist entries := by
  induction entries with
  | nil => exact .slnil
  | cons entry rest ih =>
    rw [remove]
    split
    · exact .cons _ (List.Sublist.refl _)
    · exact .cons_cons _ ih

def find (table : Table κ ν) (key : κ) : Option ν := lookup key table.entries

def put (table : Table κ ν) (key : κ) (value : ν) : Table κ ν where
  entries := replace key value table.entries
  distinct := by
    rw [replace_keys]
    split
    · exact table.distinct
    · rename_i fresh
      exact List.nodup_append.mpr ⟨table.distinct,by simp,by
        intro a present b single
        rw [List.mem_singleton.mp single]
        exact fun equal => fresh (equal ▸ present)⟩

def erase (table : Table κ ν) (key : κ) : Table κ ν where
  entries := remove key table.entries
  distinct := table.distinct.sublist ((remove_sublist key table.entries).map _)

def size (table : Table κ ν) : Nat := table.entries.length

theorem find_put (table : Table κ ν) (key other : κ) (value : ν) :
    (table.put key value).find other = if other = key then some value else table.find other := by
  show lookup other (replace key value table.entries) = _
  unfold find
  induction table.entries with
  | nil => simp [replace,lookup,eq_comm]
  | cons entry rest ih =>
    by_cases same : entry.1 = key
    · by_cases asked : other = key
      · simp [replace,lookup,same,asked]
      · simp [replace,lookup,same,asked,Ne.symm asked]
    · by_cases asked : entry.1 = other
      · have different : other ≠ key := fun equal => same (asked.trans equal)
        simp [replace,lookup,asked,different]
      · simp [replace,lookup,same,asked,ih]

theorem lookup_absent (key : κ) (entries : List (κ × ν)) (absent : key ∉ entries.map Prod.fst) :
    lookup key entries = none := by
  induction entries with
  | nil => rfl
  | cons entry rest ih =>
    simp only [List.map_cons,List.mem_cons,not_or] at absent
    simp [lookup,Ne.symm absent.1,ih absent.2]

theorem find_erase (table : Table κ ν) (key other : κ) :
    (table.erase key).find other = if other = key then none else table.find other := by
  obtain ⟨entries,distinct⟩ := table
  show lookup other (remove key entries) = if other = key then none else lookup other entries
  induction entries with
  | nil => simp [remove,lookup]
  | cons entry rest ih =>
    have tail := (List.nodup_cons.mp distinct)
    by_cases same : entry.1 = key
    · by_cases asked : other = key
      · simp only [remove,same,if_true,asked]
        exact lookup_absent _ _ (same ▸ tail.1)
      · have away : key ≠ other := Ne.symm asked
        simp [remove,lookup,same,asked,away]
    · by_cases asked : entry.1 = other
      · have different : other ≠ key := fun equal => same (asked.trans equal)
        simp [remove,lookup,asked,different]
      · simp [remove,lookup,same,asked,ih tail.2]

end Table
end TokenTransfer
