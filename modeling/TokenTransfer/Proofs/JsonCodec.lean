import TokenTransfer.Json.Record

namespace TokenTransfer.Json

def Plain (b : UInt8) : Prop := b ≠ quote ∧ b ≠ backslash ∧ ¬b < 32

theorem plain_high {b : UInt8} (high : 128 ≤ b.toNat) : Plain b := by
  refine ⟨?_,?_,?_⟩
  · intro same
    rw [same] at high
    exact absurd high (by decide)
  · intro same
    rw [same] at high
    exact absurd high (by decide)
  · rw [UInt8.lt_iff_toNat_lt]
    show ¬b.toNat < 32
    omega

theorem continuation_toNat (n : Nat) : (Utf8.continuation n).toNat = 128 + n % 64 :=
  Utf8.byte_toNat _ (by omega)

-- All bytes of a character past the first 128 are high.
theorem writeChar_plain {c : Char} (unescaped : shortForm? c = none) (printable : ¬c.toNat < 32) :
    ∀ b ∈ Utf8.writeChar c, Plain b := by
  have valid : c.toNat < 0xD800 ∨ (0xDFFF < c.toNat ∧ c.toNat < 0x110000) := c.valid
  intro b present
  unfold Utf8.writeChar at present
  simp only at present
  split at present
  · rename_i low
    cases List.mem_singleton.mp present
    have value := Utf8.byte_toNat c.toNat (by omega)
    have apart : ∀ k, k < 128 → shortForm? (Char.ofNat k) ≠ none → c.toNat ≠ k := by
      intro k _ form same
      exact form (by rw [← same,Char.ofNat_toNat]; exact unescaped)
    have noQuote := apart 34 (by decide) (by decide)
    have noBackslash := apart 92 (by decide) (by decide)
    refine ⟨?_,?_,?_⟩
    · intro same
      exact noQuote (value.symm.trans (congrArg UInt8.toNat same))
    · intro same
      exact noBackslash (value.symm.trans (congrArg UInt8.toNat same))
    · rw [UInt8.lt_iff_toNat_lt,value]
      exact printable
  · split at present
    · apply plain_high
      rcases List.mem_cons.mp present with rfl | later
      · rw [Utf8.byte_toNat _ (by omega)]; omega
      · cases List.mem_singleton.mp later
        rw [continuation_toNat]; omega
    · split at present
      · apply plain_high
        simp only [List.mem_cons,List.not_mem_nil,or_false] at present
        rcases present with rfl | rfl | rfl
        · rw [Utf8.byte_toNat _ (by omega)]; omega
        · rw [continuation_toNat]; omega
        · rw [continuation_toNat]; omega
      · apply plain_high
        simp only [List.mem_cons,List.not_mem_nil,or_false] at present
        rcases present with rfl | rfl | rfl | rfl
        · rw [Utf8.byte_toNat _ (by omega)]; omega
        · rw [continuation_toNat]; omega
        · rw [continuation_toNat]; omega
        · rw [continuation_toNat]; omega

inductive Escaped (c : Char) : Bytes → Prop
  | short (mark plain : UInt8) (apart : mark ≠ unicodeMark) (back : shortEscape? mark = some plain)
      (single : Utf8.writeChar c = [plain]) : Escaped c [backslash,mark]
  | digits (h1 h2 h3 h4 : UInt8) (back : unit? h1 h2 h3 h4 = some c.toNat) (low : c.toNat < 32) :
      Escaped c [backslash,unicodeMark,h1,h2,h3,h4]
  | plain (bytes : ∀ b ∈ Utf8.writeChar c, Plain b) : Escaped c (Utf8.writeChar c)

theorem shortForm_parts {c : Char} {mark : UInt8} (form : shortForm? c = some mark) :
    mark ≠ unicodeMark ∧ ∃ plain, shortEscape? mark = some plain ∧ Utf8.writeChar c = [plain] := by
  unfold shortForm? at form
  repeat' split at form
  all_goals cases form
  all_goals rename_i same; subst same
  all_goals exact ⟨by decide,_,rfl,rfl⟩

theorem unit_low {n : Nat} (low : n < 32) : unit? 48 48 (hexByte (n/16)) (hexByte (n%16)) = some n := by
  have checked : ∀ m : Fin 32, unit? 48 48 (hexByte (m.val/16)) (hexByte (m.val%16)) = some m.val := by decide
  exact checked ⟨n,low⟩

theorem escapeChar_escaped (c : Char) : Escaped c (escapeChar c) := by
  unfold escapeChar
  cases form : shortForm? c with
  | some mark =>
    obtain ⟨apart,plain,back,single⟩ := shortForm_parts form
    exact .short mark plain apart back single
  | none =>
    simp only
    split
    · rename_i low
      exact .digits _ _ _ _ (unit_low low) low
    · rename_i printable
      exact .plain (writeChar_plain form printable)

theorem readBody_plain {bytes : Bytes} (plain : ∀ b ∈ bytes, Plain b) (tail : Bytes) :
    readBody (bytes ++ tail) = (readBody tail).map fun found => (bytes ++ found.1,found.2) := by
  induction bytes with
  | nil => simp
  | cons b rest ih =>
    obtain ⟨noQuote,noBackslash,printable⟩ := plain b List.mem_cons_self
    rw [List.cons_append,readBody.eq_def]
    simp only [noQuote,noBackslash,printable,if_false]
    rw [ih fun other present => plain other (List.mem_cons_of_mem _ present),Option.map_map]
    rfl

theorem unescape_plain {bytes : Bytes} (plain : ∀ b ∈ bytes, Plain b) (tail : Bytes) :
    unescape (bytes ++ tail) = (unescape tail).map (bytes ++ ·) := by
  induction bytes with
  | nil => simp
  | cons b rest ih =>
    obtain ⟨_,noBackslash,_⟩ := plain b List.mem_cons_self
    rw [List.cons_append,unescape.eq_def]
    simp only [noBackslash,if_false]
    rw [ih fun other present => plain other (List.mem_cons_of_mem _ present),Option.map_map]
    rfl

-- One written character at the front of a body is passed over as it stands, and
-- undone as itself.
theorem readBody_escaped {c : Char} {bytes : Bytes} (escaped : Escaped c bytes) (tail : Bytes) :
    readBody (bytes ++ tail) = (readBody tail).map fun found => (bytes ++ found.1,found.2) := by
  cases escaped with
  | short mark plain apart back single =>
    rw [List.cons_append,readBody.eq_def]
    simp [apart,back,show backslash ≠ quote by decide]
  | digits h1 h2 h3 h4 back low =>
    rw [List.cons_append,readBody.eq_def]
    simp [back,show backslash ≠ quote by decide]
  | plain plain => exact readBody_plain plain tail

theorem unescape_escaped {c : Char} {bytes : Bytes} (escaped : Escaped c bytes) (tail : Bytes) :
    unescape (bytes ++ tail) = (unescape tail).map (Utf8.writeChar c ++ ·) := by
  cases escaped with
  | short mark plain apart back single =>
    rw [List.cons_append,unescape.eq_def]
    simp [apart,back,single]
  | digits h1 h2 h3 h4 back low =>
    have notTrailing : isTrailing c.toNat = false := by simp [isTrailing]; omega
    have notLeading : isLeading c.toNat = false := by simp [isLeading]; omega
    rw [List.cons_append,unescape.eq_def]
    simp [back,notTrailing,notLeading,Char.ofNat_toNat]
  | plain plain => exact unescape_plain plain tail

theorem body_roundtrip (text : String) (tail : Bytes) :
    readBody (bodyOf text ++ quote :: tail) = some (bodyOf text,tail) := by
  unfold bodyOf
  induction text.toList with
  | nil =>
    rw [List.flatMap_nil,List.nil_append,readBody.eq_def]
    exact if_pos rfl
  | cons c rest ih =>
    rw [List.flatMap_cons,List.append_assoc,readBody_escaped (escapeChar_escaped c),ih]
    rfl

theorem unescape_body (chars : List Char) :
    unescape (chars.flatMap escapeChar) = some (chars.flatMap Utf8.writeChar) := by
  induction chars with
  | nil => simp [unescape]
  | cons c rest ih =>
    rw [List.flatMap_cons,unescape_escaped (escapeChar_escaped c),ih]
    rfl

theorem text_roundtrip (text : String) : textOf (bodyOf text) = some text := by
  unfold textOf bodyOf
  rw [unescape_body]
  exact Utf8.utf8_roundtrip text

theorem skipBlanks_stands {b : UInt8} (rest : Bytes) (visible : isBlank b = false) :
    skipBlanks (b :: rest) = b :: rest := by
  simp [skipBlanks,visible]

theorem readValue_text (budget : Nat) (text : String) (tail : Bytes) :
    readValue (budget+1) (write (.ofText text) ++ tail) = some (.ofText text,tail) := by
  have shape : write (.ofText text) ++ tail = quote :: (bodyOf text ++ quote :: tail) := by
    simp [write,Value.ofText]
  rw [shape,readValue,skipBlanks_stands _ (by decide)]
  simp [body_roundtrip,Value.ofText]

def textMembers (fields : List (String × String)) : List (String × Value) :=
  fields.map fun field => (field.1,.ofText field.2)

def bodies (members : List (String × Value)) : List (Bytes × Value) :=
  members.map fun member => (bodyOf member.1,member.2)

theorem readMembers_texts {fields : List (String × String)} (filled : fields ≠ []) {budget : Nat}
    (enough : fields.length < budget) (tail : Bytes) :
    readMembers budget (separate (writeMembers (bodies (textMembers fields))) ++ 125 :: tail) =
      some (bodies (textMembers fields),tail) := by
  induction fields generalizing budget with
  | nil => exact absurd rfl filled
  | cons field rest ih =>
    obtain ⟨budget,rfl⟩ : ∃ less, budget = less + 2 := ⟨budget - 2,by simp at enough; omega⟩
    have colon : isBlank 58 = false := by decide
    cases rest with
    | nil =>
      have shape : separate (writeMembers (bodies (textMembers [field]))) ++ 125 :: tail =
          quote :: (bodyOf field.1 ++ quote :: 58 :: (write (.ofText field.2) ++ 125 :: tail)) := by
        simp [bodies,textMembers,writeMembers,separate]
      rw [shape,readMembers,skipBlanks_stands _ (by decide)]
      simp only [if_true,body_roundtrip,Option.bind_eq_bind,Option.bind_some,skipBlanks_stands _ colon,
        readValue_text,skipBlanks_stands _ (show isBlank 125 = false by decide)]
      rfl
    | cons second others =>
      have shape : separate (writeMembers (bodies (textMembers (field :: second :: others)))) ++ 125 :: tail =
          quote :: (bodyOf field.1 ++ quote :: 58 :: (write (.ofText field.2) ++ 44 ::
            (separate (writeMembers (bodies (textMembers (second :: others)))) ++ 125 :: tail))) := by
        simp [bodies,textMembers,writeMembers,separate]
      have later := ih (List.cons_ne_nil _ _) (show (second :: others).length < budget + 1 by
        simp only [List.length_cons] at enough ⊢; omega)
      rw [shape,readMembers,skipBlanks_stands _ (by decide)]
      simp only [if_true,body_roundtrip,Option.bind_eq_bind,Option.bind_some,skipBlanks_stands _ colon,
        readValue_text,skipBlanks_stands _ (show isBlank 44 = false by decide)]
      rw [if_neg (by decide),later]
      rfl

-- Every member takes at least one byte, so the reader's budget is enough.
theorem members_length (fields : List (String × String)) :
    fields.length ≤ (separate (writeMembers (bodies (textMembers fields)))).length := by
  induction fields with
  | nil => exact Nat.zero_le _
  | cons field rest ih =>
    cases rest with
    | nil => simp [bodies,textMembers,writeMembers,separate]
    | cons second others =>
      simp only [bodies,textMembers,writeMembers,separate,List.map_cons,List.length_append,List.length_cons] at ih ⊢
      omega

theorem record_roundtrip (fields : List (String × String)) :
    read (write (.ofFields (textMembers fields))) = some (.ofFields (textMembers fields)) := by
  have shape : write (.ofFields (textMembers fields)) =
      123 :: (separate (writeMembers (bodies (textMembers fields))) ++ 125 :: []) := rfl
  have room := members_length fields
  rw [shape]
  unfold read
  rw [readValue,skipBlanks_stands _ (by decide)]
  cases fields with
  | nil =>
    simp [bodies,textMembers,writeMembers,separate,skipBlanks_stands _ (show isBlank 125 = false by decide),
      Value.ofFields,quote]
    rfl
  | cons field rest =>
    have opens : ∃ later, separate (writeMembers (bodies (textMembers (field :: rest)))) = quote :: later := by
      cases rest <;> exact ⟨_,rfl⟩
    obtain ⟨later,starts⟩ := opens
    have members := readMembers_texts (List.cons_ne_nil field rest)
      (show (field :: rest).length < 2*(123 :: (quote :: later ++ 125 :: [])).length + 1 by
        rw [starts] at room
        simp only [List.length_cons,List.length_append] at room ⊢
        omega) []
    rw [starts] at members ⊢
    rw [List.cons_append] at members ⊢
    simp only [show (123 : UInt8) ≠ quote by decide,show (123 : UInt8) ≠ 91 by decide,if_false,if_true,
      skipBlanks_stands _ (show isBlank quote = false by decide),show quote ≠ 125 by decide,members,
      Option.map_some,Option.bind_eq_bind,Option.bind_some]
    rfl

theorem named_texts (members : List (String × Value)) : named (bodies members) = some members := by
  induction members with
  | nil => rfl
  | cons member rest ih =>
    simp only [bodies] at ih
    simp [bodies,named,text_roundtrip,ih]

theorem fields_found {names : List String} {members : List (String × Value)} (least : Nat)
    (known : ∀ member ∈ members, names.contains member.1 = true) (distinct : (members.map Prod.fst).Nodup) :
    fields names least (.ofFields members) = some (names.map fun name => members.lookup name) := by
  have all : members.filter (fun member => names.contains member.1) = members := List.filter_eq_self.mpr known
  show fieldsByName names (bodies members) = _
  unfold fieldsByName
  rw [named_texts]
  simp only [Option.bind_eq_bind,Option.bind_some,all]
  exact if_pos distinct

end TokenTransfer.Json
