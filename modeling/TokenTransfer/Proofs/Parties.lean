import TokenTransfer.Proofs.PayloadCodec
import TokenTransfer.Proofs.Utf8Canonical

namespace TokenTransfer

namespace Utf8
variable {bytes : Bytes} {text : String}

def Plain (bytes : Bytes) : Prop := ∃ text, write text = bytes ∧ ∀ c ∈ text.toList, isControl c = false

theorem readsAsText_exact : readsAsText bytes = true ↔ Plain bytes := by
  unfold readsAsText Plain
  constructor
  · intro reads
    cases found : read bytes with
    | none =>
      rw [found] at reads
      cases reads
    | some text =>
      rw [found] at reads
      exact ⟨text,utf8_canonical found,by simpa using reads⟩
  · intro plain
    obtain ⟨text,rfl,clean⟩ := plain
    rw [utf8_roundtrip]
    simpa using clean

instance (bytes : Bytes) : Decidable (Plain bytes) := decidable_of_iff _ readsAsText_exact

theorem readsAsText_binary : readsAsText bytes = false ↔ ¬Plain bytes := by
  rw [← readsAsText_exact,Bool.not_eq_true]

theorem plain_written : Plain (write text) ↔ ∀ c ∈ text.toList, isControl c = false := by
  rw [← readsAsText_exact]
  unfold readsAsText
  rw [utf8_roundtrip]
  simp

end Utf8

namespace Hex

theorem digit_lower {c : Char} {n : Nat} (found : value? c = some n) : n < 16 ∧ digit n = c.toLower := by
  have checked : ∀ k : Fin 128, (value? (Char.ofNat k.val)).all (fun n =>
      decide (n < 16 ∧ digit n = (Char.ofNat k.val).toLower)) = true := by decide
  have low : c.toNat < 128 := by
    unfold value? at found
    repeat' split at found
    all_goals first | omega | cases found
  have here := checked ⟨c.toNat,low⟩
  simpa [Char.ofNat_toNat,found] using here

theorem read_lower {digits : List Char} {bytes : Bytes} (found : read digits = some bytes) :
    write bytes = digits.map Char.toLower := by
  induction digits using read.induct generalizing bytes with
  | case1 =>
    cases found
    rfl
  | case2 => cases found
  | case3 high low rest ih =>
    simp only [read,Option.bind_eq_bind,Option.bind_eq_some_iff] at found
    obtain ⟨h,higher,l,lower,others,behind,joined⟩ := found
    cases joined
    obtain ⟨smallHigh,first⟩ := digit_lower higher
    obtain ⟨smallLow,second⟩ := digit_lower lower
    have value : (UInt8.ofNat (16*h + l)).toNat = 16*h + l := Utf8.byte_toNat _ (by omega)
    have upper : (16*h + l) / 16 = h := by omega
    have under : (16*h + l) % 16 = l := by omega
    have tail := ih behind
    unfold write at tail ⊢
    rw [List.flatMap_cons,tail,writeByte,value,upper,under,first,second]
    rfl

end Hex

theorem Address.text_lower {party : String} {a : Address} (named : read? party = some a) : a.text = party.toLower := by
  unfold read? at named
  split at named
  · rename_i x digits shape
    split at named
    · rename_i marked
      obtain ⟨bytes,read,taken⟩ := Option.bind_eq_some_iff.mp named
      unfold ofBytes? at taken
      split at taken
      · cases taken
        have lower : x.toLower = 'x' := by rcases marked with rfl | rfl <;> decide
        apply String.toList_inj.mp
        unfold text String.toLower
        rw [String.toList_ofList,String.toList_map,shape,List.map_cons,List.map_cons,Hex.read_lower read,lower]
        rfl
      · cases taken
    · cases named
  · cases named

namespace Payload
variable {party : String} {bytes : Bytes}

def Raw (party : String) : Prop := ∃ address, Address.read? party = some address ∧ ¬Utf8.Plain address.bytes

-- A party of twenty bytes that names no account and would come back as one.
def Ambiguous (party : String) : Prop :=
  Address.read? party = none ∧ (Utf8.write party).length = 20 ∧ ∃ c ∈ party.toList, Utf8.isControl c = true

instance (party : String) : Decidable (Raw party) :=
  match named : Address.read? party with
  | some address => decidable_of_iff (¬Utf8.Plain address.bytes) (by simp [Raw,named])
  | none => .isFalse (by simp [Raw,named])

instance (party : String) : Decidable (Ambiguous party) :=
  decidable_of_iff (Address.read? party = none ∧ (Utf8.write party).length = 20 ∧
    party.toList.any Utf8.isControl = true) (by simp [Ambiguous])

theorem carried_exact (party : String) : carried party = if Raw party then party.toLower else party := by
  unfold carried
  cases named : Address.read? party with
  | none => exact (if_neg fun ⟨_,found,_⟩ => by rw [named] at found; cases found).symm
  | some address =>
    by_cases plain : Utf8.Plain address.bytes
    · have kept : ¬Raw party := by
        intro raw
        obtain ⟨other,found,binary⟩ := raw
        rw [named] at found
        cases found
        exact binary plain
      rw [if_neg kept]
      exact if_pos (Utf8.readsAsText_exact.mpr plain)
    · rw [if_pos ⟨address,named,plain⟩,← Address.text_lower named]
      exact if_neg fun reads => plain (Utf8.readsAsText_exact.mp reads)

theorem bytesOfParty_writes : (∃ bytes, bytesOfParty party = .ok bytes) ↔ ¬Ambiguous party := by
  unfold bytesOfParty Ambiguous
  cases named : Address.read? party with
  | some address =>
    simp only [reduceCtorEq,false_and,not_false_iff,iff_true]
    split
    · exact ⟨_,rfl⟩
    · exact ⟨_,rfl⟩
  | none =>
    have control : Utf8.readsAsText (Utf8.write party) = false ↔ ∃ c ∈ party.toList, Utf8.isControl c = true := by
      rw [Utf8.readsAsText_binary,Utf8.plain_written]
      simp
    simp only [true_and,control]
    split
    · rename_i taken
      simp [taken]
    · rename_i clear
      simp [clear]

-- No party that was read is ambiguous: twenty bytes that are no plain text have
-- been read as an account.
theorem partyOfBytes_clear (found : partyOfBytes bytes = .ok party) : ¬Ambiguous party := by
  intro ambiguous
  obtain ⟨nameless,sized,control⟩ := ambiguous
  have unplain : ¬Utf8.Plain (Utf8.write party) := by
    rw [Utf8.plain_written]
    simpa using control
  unfold partyOfBytes at found
  cases account : Address.ofBytes? bytes with
  | some address =>
    rw [account] at found
    simp only at found
    split at found
    · rename_i reads
      split at found
      · rename_i text read
        cases found
        rw [Utf8.utf8_canonical read] at unplain
        exact unplain (Utf8.readsAsText_exact.mp reads)
      · cases found
    · cases found
      rw [Address.text_roundtrip] at nameless
      cases nameless
  | none =>
    rw [account] at found
    simp only at found
    split at found
    · rename_i text read
      cases found
      rw [Utf8.utf8_canonical read] at sized
      unfold Address.ofBytes? at account
      rw [dif_pos sized] at account
      cases account
    · cases found

end Payload
end TokenTransfer
