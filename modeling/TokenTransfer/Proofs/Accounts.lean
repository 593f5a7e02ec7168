import Mathlib.Data.List.Induction
import TokenTransfer.Proofs.Parties

namespace TokenTransfer

theorem BigEndian.write_read (bytes : Bytes) : write bytes.length (read bytes) = bytes := by
  induction bytes using List.reverseRecOn with
  | nil => rfl
  | append_singleton bytes b ih =>
    have bound := b.toNat_lt
    have upper : (256*read bytes + b.toNat) / 256 = read bytes := by omega
    have lower : UInt8.ofNat (256*read bytes + b.toNat) = b := by
      rw [← UInt8.toNat_inj,UInt8.toNat_ofNat']
      omega
    rw [List.length_append,List.length_singleton,read_append,write,upper,ih,lower]

namespace Hex
variable {c : Char} {n : Nat} {digits : List Char} {bytes : Bytes}

def Digit (c : Char) : Prop := c ∈ "0123456789abcdefABCDEF".toList

instance (c : Char) : Decidable (Digit c) := inferInstanceAs (Decidable (_ ∈ _))

def count (c : Char) : Nat := "0123456789abcdef".toList.idxOf c.toLower

def numeral (digits : List Char) : Nat := digits.foldl (fun n c => 16*n + count c) 0

theorem value_exact (c : Char) : value? c = if Digit c then some (count c) else none := by
  by_cases low : c.toNat < 128
  · have checked : ∀ k : Fin 128, value? (Char.ofNat k.val) =
        if Digit (Char.ofNat k.val) then some (count (Char.ofNat k.val)) else none := by decide +kernel
    have here := checked ⟨c.toNat,low⟩
    rwa [Char.ofNat_toNat] at here
  · have foreign : ¬Digit c := by
      intro digit
      have listed : "0123456789abcdefABCDEF".toList.all (fun d => decide (d.toNat < 128)) = true := by decide
      exact low (of_decide_eq_true (List.all_eq_true.mp listed c digit))
    rw [if_neg foreign]
    unfold value?
    rw [if_neg (by omega),if_neg (by omega),if_neg (by omega)]

theorem value_digit : value? c = some n ↔ Digit c ∧ n = count c := by
  rw [value_exact]
  split
  · rename_i digit
    simp [digit,eq_comm]
  · rename_i foreign
    simp [foreign]

theorem read_done : (∃ bytes, read digits = some bytes) ↔ digits.length % 2 = 0 ∧ ∀ c ∈ digits, Digit c := by
  induction digits using read.induct with
  | case1 => exact iff_of_true ⟨[],rfl⟩ ⟨rfl,List.forall_mem_nil _⟩
  | case2 c =>
    refine iff_of_false ?_ fun single => absurd single.1 (by simp)
    rintro ⟨bytes,found⟩
    cases found
  | case3 high low rest ih =>
    have even : (high :: low :: rest).length % 2 = 0 ↔ rest.length % 2 = 0 := by
      simp only [List.length_cons]
      omega
    rw [even,List.forall_mem_cons,List.forall_mem_cons]
    constructor
    · rintro ⟨bytes,found⟩
      simp only [read,Option.bind_eq_bind,Option.bind_eq_some_iff] at found
      obtain ⟨h,higher,l,lower,others,behind,_⟩ := found
      obtain ⟨counted,clean⟩ := ih.mp ⟨others,behind⟩
      exact ⟨counted,(value_digit.mp higher).1,(value_digit.mp lower).1,clean⟩
    · rintro ⟨counted,first,second,clean⟩
      obtain ⟨others,behind⟩ := ih.mpr ⟨counted,clean⟩
      simp [read,value_digit.mpr ⟨first,rfl⟩,value_digit.mpr ⟨second,rfl⟩,behind]

-- With `n` for what stands in front of the digits.
theorem read_counted (found : read digits = some bytes) (n : Nat) :
    bytes.foldl (fun value b => 256*value + b.toNat) n = digits.foldl (fun n c => 16*n + count c) n := by
  induction digits using read.induct generalizing bytes n with
  | case1 =>
    cases found
    rfl
  | case2 => cases found
  | case3 high low rest ih =>
    simp only [read,Option.bind_eq_bind,Option.bind_eq_some_iff] at found
    obtain ⟨h,higher,l,lower,others,behind,joined⟩ := found
    cases joined
    have smallHigh := (digit_lower higher).1
    have smallLow := (digit_lower lower).1
    have value : (UInt8.ofNat (16*h + l)).toNat = 16*h + l := Utf8.byte_toNat _ (by omega)
    have placed : 256*n + (16*h + l) = 16*(16*n + h) + l := by omega
    rw [List.foldl_cons,List.foldl_cons,List.foldl_cons,ih behind,value,placed,← (value_digit.mp higher).2,
      ← (value_digit.mp lower).2]

theorem read_numeral (found : read digits = some bytes) : BigEndian.read bytes = numeral digits := read_counted found 0

end Hex

namespace Address
variable {party : String} {digits : List Char} {account other : Address}

structure Spelled (party : String) (digits : List Char) : Prop where
  marked : party.toList = '0' :: 'x' :: digits ∨ party.toList = '0' :: 'X' :: digits
  full : digits.length = 40
  clean : ∀ c ∈ digits, Hex.Digit c

instance (party : String) (digits : List Char) : Decidable (Spelled party digits) :=
  decidable_of_iff ((party.toList = '0' :: 'x' :: digits ∨ party.toList = '0' :: 'X' :: digits) ∧
      digits.length = 40 ∧ digits.all (fun c => decide (Hex.Digit c)) = true) <| by
    constructor
    · intro parts
      exact ⟨parts.1,parts.2.1,by simpa using parts.2.2⟩
    · intro spelled
      exact ⟨spelled.marked,spelled.full,by simpa using spelled.clean⟩

theorem read_inj : BigEndian.read account.bytes = BigEndian.read other.bytes ↔ account = other := by
  constructor
  · intro same
    have one := BigEndian.write_read account.bytes
    have two := BigEndian.write_read other.bytes
    rw [account.size] at one
    rw [other.size,← same,one] at two
    cases account
    cases other
    simpa using two
  · intro same
    rw [same]

theorem read_parts (named : read? party = some account) :
    ∃ digits, Spelled party digits ∧ Hex.read digits = some account.bytes := by
  unfold read? at named
  split at named
  · rename_i x digits shape
    split at named
    · rename_i marked
      obtain ⟨bytes,found,taken⟩ := Option.bind_eq_some_iff.mp named
      unfold ofBytes? at taken
      split at taken
      · rename_i size
        cases taken
        have counted := Hex.read_length found
        refine ⟨digits,⟨?_,by omega,(Hex.read_done.mp ⟨_,found⟩).2⟩,found⟩
        rw [shape]
        rcases marked with rfl | rfl
        · exact .inl rfl
        · exact .inr rfl
      · cases taken
    · cases named
  · cases named

theorem Spelled.read (spelled : Spelled party digits) :
    ∃ account, read? party = some account ∧ Hex.read digits = some account.bytes := by
  have even : digits.length % 2 = 0 := by rw [spelled.full]
  obtain ⟨bytes,found⟩ := Hex.read_done.mpr ⟨even,spelled.clean⟩
  have counted := Hex.read_length found
  have size : bytes.length = 20 := by
    rw [spelled.full] at counted
    omega
  refine ⟨⟨bytes,size⟩,?_,found⟩
  have taken : (Hex.read digits).bind ofBytes? = some ⟨bytes,size⟩ := by
    rw [found,Option.bind_some,ofBytes?,dif_pos size]
  unfold read?
  rcases spelled.marked with shape | shape
  · rw [shape]
    exact taken
  · rw [shape]
    exact taken

theorem parties_resolve (party : String) :
    ((∃ account, read? party = some account) ↔ ∃ digits, Spelled party digits) ∧
      (∀ digits account, Spelled party digits →
        (read? party = some account ↔ BigEndian.read account.bytes = Hex.numeral digits)) ∧
      (∀ account, read? party = some account → account.text = party.toLower) ∧
      (∀ account : Address, read? account.text = some account) ∧
      (∀ again account other, read? party = some account → read? again = some other →
        (account = other ↔ party.toLower = again.toLower)) := by
  refine ⟨⟨?_,?_⟩,?_,fun account named => text_lower named,text_roundtrip,?_⟩
  · rintro ⟨account,named⟩
    obtain ⟨digits,spelled,_⟩ := read_parts named
    exact ⟨digits,spelled⟩
  · rintro ⟨digits,spelled⟩
    obtain ⟨account,named,_⟩ := spelled.read
    exact ⟨account,named⟩
  · intro digits account spelled
    obtain ⟨found,named,read⟩ := spelled.read
    rw [named,Option.some.injEq,← Hex.read_numeral read,read_inj]
    exact eq_comm
  · intro again account other one two
    rw [← text_lower one,← text_lower two]
    constructor
    · intro same
      rw [same]
    · intro same
      have back := text_roundtrip account
      rw [same,text_roundtrip] at back
      exact (Option.some.inj back).symm

theorem parties_resolve_spellings :
    let party := "0X00000000000000000000000000000000000001aB"
    let again := "0x00000000000000000000000000000000000001Ab"
    ∃ digits account, Spelled party digits ∧ read? party = some account ∧ read? again = some account ∧
      BigEndian.read account.bytes = 427 ∧ account.text = party.toLower ∧ read? account.text = some account := by
  intro party again
  have spelled : Spelled party (party.toList.drop 2) := by decide
  have other : Spelled again (again.toList.drop 2) := by decide
  have value : Hex.numeral (party.toList.drop 2) = 427 := by decide
  have letters : party.toLower = again.toLower := by
    rw [← String.toList_inj]
    unfold String.toLower
    rw [String.toList_map,String.toList_map]
    decide
  obtain ⟨names,number,text,back,same⟩ := parties_resolve party
  obtain ⟨account,named⟩ := names.mpr ⟨_,spelled⟩
  obtain ⟨also,found⟩ := (parties_resolve again).1.mpr ⟨_,other⟩
  have one : account = also := (same again account also named found).mpr letters
  rw [← one] at found
  have counted : BigEndian.read account.bytes = 427 := ((number _ account spelled).mp named).trans value
  exact ⟨_,account,spelled,named,found,counted,text account named,back account⟩

-- A mark too many, a digit too few, nineteen bytes and twenty-one.
example : ∀ party ∈ ["0x0x0000000000000000000000000000000000000000","0x000000000000000000000000000000000000000",
    "0x00000000000000000000000000000000000000","0x000000000000000000000000000000000000000000"],
    read? party = none := by decide

end Address
end TokenTransfer
