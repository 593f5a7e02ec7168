import TokenTransfer.Utf8

namespace TokenTransfer.Utf8
variable {a b c d : UInt8} {bytes : Bytes} {text : String}

-- The way back of `utf8_roundtrip`: bytes that read as a text are the bytes that
-- the text is written as. First the lead bytes of each length, then what follows them.

theorem lead_one (one : size a = 1) : a.toNat < 128 := by
  rw [size_eq] at one
  grind

theorem lead_two (two : size a = 2) : 194 ≤ a.toNat ∧ a.toNat < 224 := by
  rw [size_eq] at two
  grind

theorem lead_three (three : size a = 3) : 224 ≤ a.toNat ∧ a.toNat < 240 := by
  rw [size_eq] at three
  grind

theorem lead_four (leads : size a ≠ 0) (longer : size a ≠ 1 ∧ size a ≠ 2 ∧ size a ≠ 3) :
    240 ≤ a.toNat ∧ a.toNat < 245 := by
  rw [size_eq] at leads longer
  grind

theorem continues_range (more : continues b = true) : 128 ≤ b.toNat ∧ b.toNat < 192 := by
  rwa [continues_eq,decide_eq_true_eq] at more

theorem follows_range (second : follows a b = true) : 128 ≤ b.toNat ∧ b.toNat < 192 ∧
    (a.toNat = 224 → 160 ≤ b.toNat) ∧ (a.toNat = 237 → b.toNat < 160) ∧ (a.toNat = 240 → 144 ≤ b.toNat) ∧
    (a.toNat = 244 → b.toNat < 144) := by
  rw [follows_eq] at second
  repeat' split at second
  all_goals
    rw [decide_eq_true_eq] at second
    omega

theorem char_toNat {n : Nat} (valid : n < 0xD800 ∨ (0xDFFF < n ∧ n < 0x110000)) : (Char.ofNat n).toNat = n := by
  unfold Char.ofNat
  rw [dif_pos valid]
  rfl

theorem byte_back {n : Nat} (same : n = a.toNat) : UInt8.ofNat n = a := by
  rw [same,UInt8.ofNat_toNat]

theorem writeChar_one (one : size a = 1) : writeChar (join a.toNat 128 []) = [a] := by
  have low := lead_one one
  have value : (join a.toNat 128 []).toNat = a.toNat := by
    rw [join,List.foldl_nil,Nat.mod_eq_of_lt low]
    exact char_toNat (by omega)
  unfold writeChar
  simp only [value,if_pos low,UInt8.ofNat_toNat]

theorem writeChar_two (two : size a = 2) (second : follows a b = true) :
    writeChar (join a.toNat 32 [b]) = [a,b] := by
  have lead := lead_two two
  have next := follows_range second
  have value : (join a.toNat 32 [b]).toNat = 64*(a.toNat%32)+b.toNat%64 := by
    rw [join,List.foldl_cons,List.foldl_nil]
    exact char_toNat (by omega)
  unfold writeChar continuation
  simp only [value]
  rw [if_neg (by omega),if_pos (by omega),byte_back (a := a) (by omega),byte_back (a := b) (by omega)]

theorem writeChar_three (three : size a = 3) (second : follows a b = true) (third : continues c = true) :
    writeChar (join a.toNat 16 [b,c]) = [a,b,c] := by
  have lead := lead_three three
  have next := follows_range second
  have last := continues_range third
  have value : (join a.toNat 16 [b,c]).toNat = 64*(64*(a.toNat%16)+b.toNat%64)+c.toNat%64 := by
    rw [join,List.foldl_cons,List.foldl_cons,List.foldl_nil]
    exact char_toNat (by omega)
  unfold writeChar continuation
  simp only [value]
  rw [if_neg (by omega),if_neg (by omega),if_pos (by omega),byte_back (a := a) (by omega),
    byte_back (a := b) (by omega),byte_back (a := c) (by omega)]

theorem writeChar_four (lead : 240 ≤ a.toNat ∧ a.toNat < 245) (second : follows a b = true)
    (third : continues c = true) (fourth : continues d = true) :
    writeChar (join a.toNat 8 [b,c,d]) = [a,b,c,d] := by
  have next := follows_range second
  have more := continues_range third
  have last := continues_range fourth
  have value : (join a.toNat 8 [b,c,d]).toNat =
      64*(64*(64*(a.toNat%8)+b.toNat%64)+c.toNat%64)+d.toNat%64 := by
    rw [join,List.foldl_cons,List.foldl_cons,List.foldl_cons,List.foldl_nil]
    exact char_toNat (by omega)
  unfold writeChar continuation
  simp only [value]
  rw [if_neg (by omega),if_neg (by omega),if_neg (by omega),byte_back (a := a) (by omega),
    byte_back (a := b) (by omega),byte_back (a := c) (by omega),byte_back (a := d) (by omega)]

theorem whole_cons {first : Option Char} {rest : List (Option Char)} {chars : List Char}
    (complete : whole (first :: rest) = some chars) :
    ∃ char others, first = some char ∧ whole rest = some others ∧ chars = char :: others := by
  cases first with
  | none => cases complete
  | some char =>
    obtain ⟨others,found,rfl⟩ := Option.map_eq_some_iff.mp complete
    exact ⟨char,others,rfl,found,rfl⟩

theorem pieces_whole {chars : List Char} (complete : whole (pieces bytes) = some chars) :
    chars.flatMap writeChar = bytes := by
  -- One complete piece at the front, and the rest by induction.
  have join_front : ∀ {char : Char} {front rest : Bytes} {chars : List Char}, writeChar char = front →
      (∀ {others}, whole (pieces rest) = some others → others.flatMap writeChar = rest) →
      whole (some char :: pieces rest) = some chars → chars.flatMap writeChar = front ++ rest := by
    intro char front rest chars written ih complete
    obtain ⟨_,others,same,found,rfl⟩ := whole_cons complete
    cases same
    rw [List.flatMap_cons,written,ih found]
  fun_induction pieces bytes generalizing chars with
  | case1 =>
    cases complete
    rfl
  | case3 a rest _ one ih => exact join_front (writeChar_one one) ih complete
  | case5 a _ _ b rest second two ih => exact join_front (writeChar_two two second) ih complete
  | case7 a _ _ b second _ c rest third three ih =>
    exact join_front (writeChar_three three second third) ih complete
  | case9 a leads notOne b second notTwo c third notThree d rest fourth ih =>
    have lead := lead_four leads ⟨notOne,notTwo,notThree⟩
    exact join_front (writeChar_four lead second third fourth) ih complete
  | case2 | case4 | case6 | case8 | case10 | case11 | case12 => cases complete

theorem utf8_canonical (found : read bytes = some text) : write text = bytes := by
  obtain ⟨chars,complete,rfl⟩ := Option.map_eq_some_iff.mp found
  unfold write
  rw [String.toList_ofList]
  exact pieces_whole complete

end TokenTransfer.Utf8
