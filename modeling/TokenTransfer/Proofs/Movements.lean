import TokenTransfer.Ledger
import TokenTransfer.Proofs.Calls

namespace TokenTransfer

namespace Table
variable {κ ν : Type} [DecidableEq κ]

def sum (measure : κ → ν → Nat) (table : Table κ ν) : Nat :=
  table.entries.foldr (fun entry rest => measure entry.1 entry.2 + rest) 0

theorem sum_put (measure : κ → ν → Nat) (table : Table κ ν) (key : κ) (value : ν) :
    (table.put key value).sum measure + ((table.find key).map (measure key)).getD 0 =
      table.sum measure + measure key value := by
  show (replace key value table.entries).foldr (fun entry rest => measure entry.1 entry.2 + rest) 0 +
      ((lookup key table.entries).map (measure key)).getD 0 =
    table.entries.foldr (fun entry rest => measure entry.1 entry.2 + rest) 0 + measure key value
  induction table.entries with
  | nil => simp [replace,lookup]
  | cons entry rest ih =>
    by_cases same : entry.1 = key
    · subst same
      simp only [replace,lookup,if_true,List.foldr_cons,Option.map_some,Option.getD_some]
      omega
    · simp only [replace,lookup,same,if_false,List.foldr_cons]
      omega

theorem measure_le_sum (measure : κ → ν → Nat) (table : Table κ ν) (key : κ) :
    ((table.find key).map (measure key)).getD 0 ≤ table.sum measure := by
  show ((lookup key table.entries).map (measure key)).getD 0 ≤
    table.entries.foldr (fun entry rest => measure entry.1 entry.2 + rest) 0
  induction table.entries with
  | nil => simp [lookup]
  | cons entry rest ih =>
    by_cases same : entry.1 = key
    · subst same
      simp [lookup]
    · simp only [lookup,same,if_false,List.foldr_cons]
      omega

theorem find_member (table : Table κ ν) {entry : κ × ν} (present : entry ∈ table.entries) :
    table.find entry.1 = some entry.2 := by
  obtain ⟨entries,distinct⟩ := table
  show lookup entry.1 entries = some entry.2
  induction entries with
  | nil => cases present
  | cons first rest ih =>
    have tail := List.nodup_cons.mp distinct
    rw [lookup]
    cases present with
    | head => exact if_pos rfl
    | tail _ later =>
      have apart : first.1 ≠ entry.1 := fun same => tail.1 (same ▸ List.mem_map_of_mem later)
      rw [if_neg apart]
      exact ih tail.2 later

theorem find_listed (table : Table κ ν) {key : κ} {value : ν} (found : table.find key = some value) :
    (key,value) ∈ table.entries := by
  obtain ⟨entries,distinct⟩ := table
  have looked : lookup key entries = some value := found
  show (key,value) ∈ entries
  clear distinct found
  induction entries with
  | nil => cases looked
  | cons entry rest ih =>
    rw [lookup] at looked
    split at looked
    · rename_i here
      cases looked
      exact here ▸ List.mem_cons_self
    · exact List.mem_cons_of_mem _ (ih looked)

theorem sum_zero (measure : κ → ν → Nat) (table : Table κ ν)
    (nothing : ∀ key value, table.find key = some value → measure key value = 0) : table.sum measure = 0 := by
  have each : ∀ entry ∈ table.entries, measure entry.1 entry.2 = 0 := by
    intro entry inside
    exact nothing entry.1 entry.2 (table.find_member inside)
  unfold Table.sum
  generalize table.entries = entries at each
  induction entries with
  | nil => rfl
  | cons entry rest ih =>
    rw [List.foldr_cons,each entry List.mem_cons_self]
    have others := ih fun other inside => each other (List.mem_cons_of_mem _ inside)
    omega

end Table

namespace Amount

theorem add?_exact {a b sum : Amount} : a.add? b = some sum ↔ sum.units = a.units + b.units := by
  unfold Amount.add? Amount.ofNat?
  constructor
  · intro added
    split at added
    · cases added; rfl
    · cases added
  · intro total
    have fits : a.units + b.units < amountBound := total ▸ sum.bounded
    rw [dif_pos fits]
    congr 1
    cases sum
    simp_all

theorem sub?_exact {a b left : Amount} : a.sub? b = some left ↔ left.units + b.units = a.units := by
  unfold Amount.sub?
  constructor
  · intro taken
    split at taken
    · cases taken
    · cases taken; simp only; omega
  · intro total
    rw [if_neg (by omega)]
    congr 1
    cases left
    simp only [Amount.mk.injEq]
    simp only at total
    omega

end Amount

namespace Guard

theorem authorized_exact {caller expected : Address} {role : Role} :
    authorized caller expected role = .ok () ↔ caller = expected := by
  unfold authorized
  split <;> simp_all

theorem remaining_exact {account : Address} {denom : String} {balance amount left : Amount} :
    remaining account denom balance amount = .ok left ↔ left.units + amount.units = balance.units := by
  rw [← Amount.sub?_exact]
  unfold remaining
  cases balance.sub? amount <;> simp

theorem credited_exact {account : Address} {denom : String} {balance amount sum : Amount} :
    credited account denom balance amount = .ok sum ↔ sum.units = balance.units + amount.units := by
  rw [← Amount.add?_exact]
  unfold credited
  cases balance.add? amount <;> simp

theorem covered_exact {channel denom : String} {balance amount : Amount} :
    covered channel denom balance amount = .ok () ↔ amount.units ≤ balance.units := by
  unfold covered
  split <;> simp <;> omega

end Guard

namespace Ledger
variable {ledger next : Ledger} {caller source target account : Address} {denom other : String}
  {amount : Amount} {event : TransferEvent}

-- What an account holds, and what all accounts hold together: exact numbers,
-- where the capped total may fall short.
def held (ledger : Ledger) (account : Address) (denom : String) : Nat := (ledger.balance account denom).units

def measure (denom : String) (key : Address × String) (amount : Amount) : Nat :=
  if key.2 = denom then amount.units else 0

def circulating (ledger : Ledger) (denom : String) : Nat := ledger.balances.sum (measure denom)

def enter (ledger : Ledger) (event : TransferEvent) : Ledger := {ledger with events := ledger.events ++ [event]}

def Operates (ledger : Ledger) (caller : Address) : Prop := ledger.operator ≠ .zero ∧ caller = ledger.operator

theorem authorizeOperator_exact : ledger.authorizeOperator caller = .ok () ↔ ledger.Operates caller := by
  unfold Ledger.authorizeOperator Operates
  split
  · rename_i unset
    simp [unset]
  · rename_i set
    rw [Guard.authorized_exact]
    simp [set]

@[simp] theorem held_enter : (ledger.enter event).held account denom = ledger.held account denom := rfl
@[simp] theorem circulating_enter : (ledger.enter event).circulating denom = ledger.circulating denom := rfl

theorem held_setBalance {asked : Address} : (ledger.setBalance account denom amount).held asked other =
    if asked = account ∧ other = denom then amount.units else ledger.held asked other := by
  unfold held balance setBalance
  rw [Table.find_put]
  by_cases same : asked = account ∧ other = denom
  · rw [if_pos same,if_pos (by rw [same.1,same.2])]
    rfl
  · rw [if_neg same,if_neg (by simpa using same)]

theorem held_found : ((ledger.balances.find (account,denom)).map (measure other (account,denom))).getD 0 =
    if denom = other then ledger.held account denom else 0 := by
  unfold held balance measure
  cases ledger.balances.find (account,denom) with
  | none => simp [Amount.zero]
  | some amount => simp

theorem circulating_setBalance (ledger : Ledger) (account : Address) (denom other : String) (amount : Amount) :
    (ledger.setBalance account denom amount).circulating other +
    (if denom = other then ledger.held account denom else 0) =
      ledger.circulating other + if denom = other then amount.units else 0 := by
  have put := Table.sum_put (measure other) ledger.balances (account,denom) amount
  rw [held_found] at put
  exact put

theorem held_le_circulating : ledger.held account denom ≤ ledger.circulating denom := by
  have bound := Table.measure_le_sum (measure denom) ledger.balances (account,denom)
  rw [held_found,if_pos rfl] at bound
  exact bound

theorem held_unlisted (absent : (account,denom) ∉ ledger.balances.entries.map Prod.fst) :
    ledger.held account denom = 0 := by
  unfold held balance Table.find
  rw [Table.lookup_absent _ _ absent]
  rfl

theorem circulating_none (nothing : ∀ account, ledger.held account denom = 0) : ledger.circulating denom = 0 := by
  apply Table.sum_zero
  intro key amount found
  unfold measure
  split
  · rename_i same
    have none := nothing key.1
    unfold held balance at none
    rwa [show (key.1,denom) = key from Prod.ext rfl same.symm,found] at none
  · rfl

theorem mint_exact : mint caller target denom amount ledger = .ok event next ↔
    ledger.Operates caller ∧ ∃ sum : Amount, sum.units = ledger.held target denom + amount.units ∧
      event = .mint target denom amount ∧ next = (ledger.setBalance target denom sum).enter event := by
  unfold Ledger.mint record
  simp only [Call.get_then,Call.check_then,Call.modify_then,Call.pure_on,Guard.credited_exact,
    EStateM.Result.ok.injEq]
  constructor
  · intro parts
    obtain ⟨_,allowed,sum,credited,rfl,rfl⟩ := parts
    exact ⟨authorizeOperator_exact.mp allowed,sum,credited,rfl,rfl⟩
  · intro parts
    obtain ⟨allowed,sum,credited,rfl,rfl⟩ := parts
    exact ⟨(),authorizeOperator_exact.mpr allowed,sum,credited,rfl,rfl⟩

theorem burn_exact : burn caller source denom amount ledger = .ok event next ↔
    ledger.Operates caller ∧ ∃ left : Amount, left.units + amount.units = ledger.held source denom ∧
      event = .burn source denom amount ∧ next = (ledger.setBalance source denom left).enter event := by
  unfold Ledger.burn record
  simp only [Call.get_then,Call.check_then,Call.modify_then,Call.pure_on,Guard.remaining_exact,
    EStateM.Result.ok.injEq]
  constructor
  · intro parts
    obtain ⟨_,allowed,left,debited,rfl,rfl⟩ := parts
    exact ⟨authorizeOperator_exact.mp allowed,left,debited,rfl,rfl⟩
  · intro parts
    obtain ⟨allowed,left,debited,rfl,rfl⟩ := parts
    exact ⟨(),authorizeOperator_exact.mpr allowed,left,debited,rfl,rfl⟩

theorem transfer_exact : transfer caller source target denom amount ledger = .ok event next ↔
    ledger.Operates caller ∧ ∃ left : Amount, left.units + amount.units = ledger.held source denom ∧
      event = ⟨source,target,denom,amount⟩ ∧
      (source = target ∧ next = ledger.enter event ∨
        source ≠ target ∧ ∃ sum : Amount, sum.units = ledger.held target denom + amount.units ∧
          next = ((ledger.setBalance source denom left).setBalance target denom sum).enter event) := by
  unfold Ledger.transfer record
  by_cases self : source = target
  · simp only [self,Call.get_then,Call.check_then,Call.modify_then,Call.pure_on,Guard.remaining_exact,
      EStateM.Result.ok.injEq,ne_eq,not_true,if_false]
    constructor
    · intro parts
      obtain ⟨_,allowed,left,debited,rfl,rfl⟩ := parts
      exact ⟨authorizeOperator_exact.mp allowed,left,debited,rfl,.inl ⟨trivial,rfl⟩⟩
    · intro parts
      rcases parts with ⟨allowed,left,debited,rfl,⟨_,rfl⟩ | ⟨apart,_⟩⟩
      · exact ⟨(),authorizeOperator_exact.mpr allowed,left,debited,rfl,rfl⟩
      · cases apart
  · simp only [self,Call.get_then,Call.check_then,Call.modify_then,Call.pure_on,Guard.remaining_exact,
      Guard.credited_exact,EStateM.Result.ok.injEq,ne_eq,not_false_iff,if_true]
    constructor
    · intro parts
      obtain ⟨_,allowed,left,debited,sum,credited,rfl,rfl⟩ := parts
      exact ⟨authorizeOperator_exact.mp allowed,left,debited,rfl,.inr ⟨trivial,sum,credited,rfl⟩⟩
    · intro parts
      rcases parts with ⟨allowed,left,debited,rfl,⟨same,_⟩ | ⟨_,sum,credited,rfl⟩⟩
      · cases same
      · exact ⟨(),authorizeOperator_exact.mpr allowed,left,debited,sum,credited,rfl,rfl⟩

theorem mint_held (minted : mint caller target denom amount ledger = .ok event next) (account : Address)
    (other : String) : next.held account other =
      ledger.held account other + if account = target ∧ other = denom then amount.units else 0 := by
  obtain ⟨_,sum,credited,_,rfl⟩ := mint_exact.mp minted
  rw [held_enter,held_setBalance]
  split
  · rename_i here
    rw [here.1,here.2,credited]
  · rfl

theorem mint_circulating (minted : mint caller target denom amount ledger = .ok event next) (other : String) :
    next.circulating other = ledger.circulating other + if other = denom then amount.units else 0 := by
  obtain ⟨_,sum,credited,_,rfl⟩ := mint_exact.mp minted
  have moved := circulating_setBalance ledger target denom other sum
  rw [circulating_enter]
  by_cases same : denom = other
  · subst same
    simp only [if_true] at moved ⊢
    omega
  · simp only [same,Ne.symm same,if_false] at moved ⊢
    omega

theorem burn_held (burned : burn caller source denom amount ledger = .ok event next) (account : Address)
    (other : String) : next.held account other +
      (if account = source ∧ other = denom then amount.units else 0) = ledger.held account other := by
  obtain ⟨_,left,debited,_,rfl⟩ := burn_exact.mp burned
  rw [held_enter,held_setBalance]
  split
  · rename_i here
    rw [here.1,here.2,debited]
  · rfl

theorem burn_circulating (burned : burn caller source denom amount ledger = .ok event next) (other : String) :
    next.circulating other + (if other = denom then amount.units else 0) = ledger.circulating other := by
  obtain ⟨_,left,debited,_,rfl⟩ := burn_exact.mp burned
  have moved := circulating_setBalance ledger source denom other left
  rw [circulating_enter]
  by_cases same : denom = other
  · subst same
    simp only [if_true] at moved ⊢
    omega
  · simp only [same,Ne.symm same,if_false] at moved ⊢
    omega

theorem transfer_held (moved : transfer caller source target denom amount ledger = .ok event next)
    (account : Address) (other : String) : next.held account other +
      (if account = source ∧ other = denom then amount.units else 0) =
        ledger.held account other + if account = target ∧ other = denom then amount.units else 0 := by
  obtain ⟨_,left,debited,_,⟨rfl,rfl⟩ | ⟨apart,sum,credited,rfl⟩⟩ := transfer_exact.mp moved
  · rfl
  · rw [held_enter,held_setBalance,held_setBalance]
    by_cases paid : account = target ∧ other = denom
    · have notSource : ¬(account = source ∧ other = denom) := fun both => apart (both.1.symm.trans paid.1)
      rw [if_pos paid,if_neg notSource,if_pos paid,paid.1,paid.2,credited]
      rfl
    · rw [if_neg paid,if_neg paid]
      split
      · rename_i here
        rw [here.1,here.2,debited]
        rfl
      · rfl

theorem transfer_circulating (moved : transfer caller source target denom amount ledger = .ok event next)
    (other : String) : next.circulating other = ledger.circulating other := by
  obtain ⟨_,left,debited,_,⟨rfl,rfl⟩ | ⟨apart,sum,credited,rfl⟩⟩ := transfer_exact.mp moved
  · rfl
  · have taken := circulating_setBalance ledger source denom other left
    have given := circulating_setBalance (ledger.setBalance source denom left) target denom other sum
    have untouched : (ledger.setBalance source denom left).held target denom = ledger.held target denom := by
      rw [held_setBalance,if_neg (fun both => apart both.1.symm)]
    rw [circulating_enter]
    rw [untouched] at given
    by_cases same : denom = other
    · subst same
      simp only [if_true] at taken given
      omega
    · simp only [same,if_false] at taken given
      omega

theorem mint_events (minted : mint caller target denom amount ledger = .ok event next) :
    next.events = ledger.events ++ [event] := by
  obtain ⟨_,_,_,rfl,rfl⟩ := mint_exact.mp minted
  rfl

theorem burn_events (burned : burn caller source denom amount ledger = .ok event next) :
    next.events = ledger.events ++ [event] := by
  obtain ⟨_,_,_,rfl,rfl⟩ := burn_exact.mp burned
  rfl

theorem transfer_events (moved : transfer caller source target denom amount ledger = .ok event next) :
    next.events = ledger.events ++ [event] := by
  obtain ⟨_,_,_,rfl,⟨rfl,rfl⟩ | ⟨_,_,_,rfl⟩⟩ := transfer_exact.mp moved
  · rfl
  · rfl

end Ledger
end TokenTransfer
