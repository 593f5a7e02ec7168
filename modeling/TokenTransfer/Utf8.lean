import TokenTransfer.Bytes

namespace TokenTransfer.Utf8

def continuation (n : Nat) : UInt8 := UInt8.ofNat (128 + n % 64)

def writeChar (c : Char) : Bytes :=
  let n := c.toNat
  if n < 128 then [UInt8.ofNat n]
  else if n < 2048 then [UInt8.ofNat (192 + n/64),continuation n]
  else if n < 65536 then [UInt8.ofNat (224 + n/4096),continuation (n/64),continuation n]
  else [UInt8.ofNat (240 + n/262144),continuation (n/4096),continuation (n/64),continuation n]

def write (text : String) : Bytes := text.toList.flatMap writeChar

def size (lead : UInt8) : Nat :=
  if lead < 128 then 1
  else if lead < 194 then 0
  else if lead < 224 then 2
  else if lead < 240 then 3
  else if lead < 245 then 4
  else 0

def continues (b : UInt8) : Bool := 128 ≤ b && b < 192

-- The second byte also keeps out overlong forms, surrogates and values past U+10FFFF.
def follows (lead b : UInt8) : Bool :=
  if lead = 224 then 160 ≤ b && b < 192
  else if lead = 237 then 128 ≤ b && b < 160
  else if lead = 240 then 144 ≤ b && b < 192
  else if lead = 244 then 128 ≤ b && b < 144
  else continues b

def join (lead bits : Nat) (rest : Bytes) : Char :=
  Char.ofNat (rest.foldl (fun n b => 64*n + b.toNat % 64) (lead % bits))

-- One entry per character, `none` for each longest run that starts a character
-- and cannot be finished. Strict and lenient readers differ only in its use.
def pieces : Bytes → List (Option Char)
  | [] => []
  | a :: one =>
    if size a = 0 then none :: pieces one
    else if size a = 1 then some (join a.toNat 128 []) :: pieces one
    else match one with
      | [] => [none]
      | b :: two =>
        if follows a b then
          if size a = 2 then some (join a.toNat 32 [b]) :: pieces two
          else match two with
            | [] => [none]
            | c :: three =>
              if continues c then
                if size a = 3 then some (join a.toNat 16 [b,c]) :: pieces three
                else match three with
                  | [] => [none]
                  | d :: four =>
                    if continues d then some (join a.toNat 8 [b,c,d]) :: pieces four
                    else none :: pieces (d :: four)
              else none :: pieces (c :: three)
        else none :: pieces (b :: two)

def whole : List (Option Char) → Option (List Char)
  | [] => some []
  | none :: _ => none
  | some c :: rest => (whole rest).map (c :: ·)

def read (bytes : Bytes) : Option String := (whole (pieces bytes)).map String.ofList

def readLenient (bytes : Bytes) : String :=
  String.ofList ((pieces bytes).map (·.getD (Char.ofNat 0xFFFD)))

theorem byte_toNat (n : Nat) (small : n < 256) : (UInt8.ofNat n).toNat = n := by
  rw [UInt8.toNat_ofNat',Nat.mod_eq_of_lt small]

theorem size_eq (lead : UInt8) : size lead =
    if lead.toNat < 128 then 1 else if lead.toNat < 194 then 0 else if lead.toNat < 224 then 2
    else if lead.toNat < 240 then 3 else if lead.toNat < 245 then 4 else 0 := by
  simp only [size,UInt8.lt_iff_toNat_lt]; rfl

theorem continues_eq (b : UInt8) : continues b = decide (128 ≤ b.toNat ∧ b.toNat < 192) := by
  simp [continues,UInt8.lt_iff_toNat_lt,UInt8.le_iff_toNat_le]

theorem follows_eq (lead b : UInt8) : follows lead b =
    if lead.toNat = 224 then decide (160 ≤ b.toNat ∧ b.toNat < 192)
    else if lead.toNat = 237 then decide (128 ≤ b.toNat ∧ b.toNat < 160)
    else if lead.toNat = 240 then decide (144 ≤ b.toNat ∧ b.toNat < 192)
    else if lead.toNat = 244 then decide (128 ≤ b.toNat ∧ b.toNat < 144)
    else decide (128 ≤ b.toNat ∧ b.toNat < 192) := by
  simp only [follows,continues_eq,← UInt8.toNat_inj,UInt8.reduceToNat]
  simp [UInt8.lt_iff_toNat_lt,UInt8.le_iff_toNat_le]

theorem pieces_one {a : UInt8} {rest : Bytes} (one : size a = 1) :
    pieces (a :: rest) = some (join a.toNat 128 []) :: pieces rest := by
  rw [pieces.eq_def]; simp [one]

theorem pieces_two {a b : UInt8} {rest : Bytes} (two : size a = 2) (second : follows a b = true) :
    pieces (a :: b :: rest) = some (join a.toNat 32 [b]) :: pieces rest := by
  rw [pieces.eq_def]; simp [two,second]

theorem pieces_three {a b c : UInt8} {rest : Bytes} (three : size a = 3) (second : follows a b = true)
    (third : continues c = true) :
    pieces (a :: b :: c :: rest) = some (join a.toNat 16 [b,c]) :: pieces rest := by
  rw [pieces.eq_def]; simp [three,second,third]

theorem pieces_four {a b c d : UInt8} {rest : Bytes} (four : size a = 4) (second : follows a b = true)
    (third : continues c = true) (fourth : continues d = true) :
    pieces (a :: b :: c :: d :: rest) = some (join a.toNat 8 [b,c,d]) :: pieces rest := by
  rw [pieces.eq_def]; simp [four,second,third,fourth]

theorem pieces_writeChar (c : Char) (rest : Bytes) : pieces (writeChar c ++ rest) = some c :: pieces rest := by
  have valid : c.toNat < 0xD800 ∨ (0xDFFF < c.toNat ∧ c.toNat < 0x110000) := c.valid
  have same : Char.ofNat c.toNat = c := Char.ofNat_toNat c
  have tail : ∀ n, (continuation n).toNat = 128 + n % 64 := fun n => byte_toNat _ (by omega)
  by_cases h1 : c.toNat < 128
  · have lead := byte_toNat c.toNat (by omega)
    rw [show writeChar c = [UInt8.ofNat c.toNat] by simp [writeChar,h1]]
    refine (pieces_one (by rw [size_eq,lead,if_pos h1])).trans ?_
    rw [join,lead,List.foldl_nil,Nat.mod_eq_of_lt h1,same]
    rfl
  · by_cases h2 : c.toNat < 2048
    · have lead := byte_toNat (192+c.toNat/64) (by omega)
      rw [show writeChar c = [UInt8.ofNat (192+c.toNat/64),continuation c.toNat] by simp [writeChar,h1,h2]]
      refine (pieces_two (by rw [size_eq,lead]; split <;> (try split) <;> (try split) <;> omega) ?_).trans ?_
      · rw [follows_eq,lead,tail]; repeat' split
        all_goals simp only [decide_eq_true_eq]; omega
      · rw [join,lead,List.foldl_cons,List.foldl_nil,tail,
          show 64*((192+c.toNat/64)%32)+(128+c.toNat%64)%64 = c.toNat by omega,same]; rfl
    · by_cases h3 : c.toNat < 65536
      · have lead := byte_toNat (224+c.toNat/4096) (by omega)
        rw [show writeChar c = [UInt8.ofNat (224+c.toNat/4096),continuation (c.toNat/64),continuation c.toNat] by
          simp [writeChar,h1,h2,h3]]
        refine (pieces_three (by rw [size_eq,lead]; repeat' split
                                 all_goals omega) ?_ ?_).trans ?_
        · rw [follows_eq,lead,tail]; repeat' split
          all_goals simp only [decide_eq_true_eq]; omega
        · rw [continues_eq,tail]; simp only [decide_eq_true_eq]; omega
        · rw [join,lead,List.foldl_cons,List.foldl_cons,List.foldl_nil,tail,tail,
            show 64*(64*((224+c.toNat/4096)%16)+(128+c.toNat/64%64)%64)+(128+c.toNat%64)%64 = c.toNat by omega,same]; rfl
      · have lead := byte_toNat (240+c.toNat/262144) (by omega)
        rw [show writeChar c = [UInt8.ofNat (240+c.toNat/262144),continuation (c.toNat/4096),
          continuation (c.toNat/64),continuation c.toNat] by simp [writeChar,h1,h2,h3]]
        refine (pieces_four (by rw [size_eq,lead]; repeat' split
                                all_goals omega) ?_ ?_ ?_).trans ?_
        · rw [follows_eq,lead,tail]; repeat' split
          all_goals simp only [decide_eq_true_eq]; omega
        · rw [continues_eq,tail]; simp only [decide_eq_true_eq]; omega
        · rw [continues_eq,tail]; simp only [decide_eq_true_eq]; omega
        · rw [join,lead,List.foldl_cons,List.foldl_cons,List.foldl_cons,List.foldl_nil,tail,tail,tail,
            show 64*(64*(64*((240+c.toNat/262144)%8)+(128+c.toNat/4096%64)%64)+(128+c.toNat/64%64)%64)+
              (128+c.toNat%64)%64 = c.toNat by omega,same]; rfl

theorem pieces_write (chars : List Char) (rest : Bytes) :
    pieces (chars.flatMap writeChar ++ rest) = chars.map some ++ pieces rest := by
  induction chars with
  | nil => rfl
  | cons c others ih =>
    rw [List.flatMap_cons,List.append_assoc,pieces_writeChar,ih]
    rfl

theorem whole_some (chars : List Char) : whole (chars.map some) = some chars := by
  induction chars with
  | nil => rfl
  | cons c rest ih => simp [whole,ih]

theorem utf8_roundtrip (text : String) : read (write text) = some text := by
  have split := pieces_write text.toList []
  simp only [List.append_nil,pieces] at split
  simp [read,write,split,whole_some]

theorem utf8_lenient (text : String) : readLenient (write text) = text := by
  have split := pieces_write text.toList []
  simp only [List.append_nil,pieces] at split
  simp [readLenient,write,split,Function.comp_def]

def isControl (c : Char) : Bool := c.toNat < 32 || (127 ≤ c.toNat && c.toNat < 160)

def readsAsText (bytes : Bytes) : Bool :=
  match read bytes with
  | none => false
  | some text => !text.toList.any isControl

end TokenTransfer.Utf8
