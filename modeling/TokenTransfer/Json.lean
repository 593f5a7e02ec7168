import TokenTransfer.Decimal
import TokenTransfer.Utf8

namespace TokenTransfer.Json

-- Values keep numbers and the insides of strings as they are written. What a
-- string says is asked of it only where text is wanted, so a member that nobody
-- reads may hold escapes or bytes that are no text.
inductive Value where
  | null
  | bool (truth : Bool)
  | number (digits : Bytes)
  | string (body : Bytes)
  | array (items : List Value)
  | object (members : List (Bytes × Value))

def quote : UInt8 := 34
def backslash : UInt8 := 92
def unicodeMark : UInt8 := 117

def isBlank (b : UInt8) : Bool := b == 32 || b == 10 || b == 13 || b == 9
def skipBlanks (bytes : Bytes) : Bytes := bytes.dropWhile isBlank

def isDigit (b : UInt8) : Bool := 48 ≤ b && b ≤ 57
def hexValue? (b : UInt8) : Option Nat := Hex.value? (Char.ofNat b.toNat)

def shortEscape? (b : UInt8) : Option UInt8 :=
  if b = quote then some quote
  else if b = backslash then some backslash
  else if b = 47 then some 47
  else if b = 98 then some 8
  else if b = 102 then some 12
  else if b = 110 then some 10
  else if b = 114 then some 13
  else if b = 116 then some 9
  else none

def unit? (a b c d : UInt8) : Option Nat := do
  let w ← hexValue? a
  let x ← hexValue? b
  let y ← hexValue? c
  let z ← hexValue? d
  return ((16*w + x)*16 + y)*16 + z

def readBody : Bytes → Option (Bytes × Bytes)
  | [] => none
  | b :: rest =>
    if b = quote then some ([],rest)
    else if b = backslash then
      match rest with
      | [] => none
      | mark :: more =>
        if mark = unicodeMark then
          match more with
          | h1 :: h2 :: h3 :: h4 :: tail =>
            if (unit? h1 h2 h3 h4).isSome then
              (readBody tail).map fun found => (b :: mark :: h1 :: h2 :: h3 :: h4 :: found.1,found.2)
            else none
          | _ => none
        else if (shortEscape? mark).isSome then
          (readBody more).map fun found => (b :: mark :: found.1,found.2)
        else none
    else if b < 32 then none
    else (readBody rest).map fun found => (b :: found.1,found.2)

def isLeading (unit : Nat) : Bool := 0xD800 ≤ unit && unit < 0xDC00
def isTrailing (unit : Nat) : Bool := 0xDC00 ≤ unit && unit < 0xE000

def joinUnits (leading trailing : Nat) : Nat := 0x10000 + (leading - 0xD800) * 0x400 + (trailing - 0xDC00)

-- Escapes undone. A leading half of a pair must be followed by a trailing one,
-- and a trailing half stands nowhere else.
def unescape : Bytes → Option Bytes
  | [] => some []
  | b :: rest =>
    if b = backslash then
      match rest with
      | [] => none
      | mark :: more =>
        if mark = unicodeMark then
          match more with
          | h1 :: h2 :: h3 :: h4 :: tail =>
            match unit? h1 h2 h3 h4 with
            | none => none
            | some unit =>
              if isTrailing unit then none
              else if isLeading unit then
                match tail with
                | s :: u :: l1 :: l2 :: l3 :: l4 :: others =>
                  match unit? l1 l2 l3 l4 with
                  | none => none
                  | some low =>
                    if s = backslash ∧ u = unicodeMark ∧ isTrailing low = true then
                      (unescape others).map (Utf8.writeChar (Char.ofNat (joinUnits unit low)) ++ ·)
                    else none
                | _ => none
              else (unescape tail).map (Utf8.writeChar (Char.ofNat unit) ++ ·)
          | _ => none
        else match shortEscape? mark with
          | none => none
          | some plain => (unescape more).map (plain :: ·)
    else (unescape rest).map (b :: ·)

def textOf (body : Bytes) : Option String := (unescape body).bind Utf8.read

def shortForm? (c : Char) : Option UInt8 :=
  if c = Char.ofNat 34 then some quote
  else if c = Char.ofNat 92 then some backslash
  else if c = Char.ofNat 8 then some 98
  else if c = Char.ofNat 12 then some 102
  else if c = Char.ofNat 10 then some 110
  else if c = Char.ofNat 13 then some 114
  else if c = Char.ofNat 9 then some 116
  else none

def hexByte (n : Nat) : UInt8 := UInt8.ofNat (Hex.digit n).toNat

def escapeChar (c : Char) : Bytes :=
  match shortForm? c with
  | some mark => [backslash,mark]
  | none =>
    if c.toNat < 32 then [backslash,unicodeMark,48,48,hexByte (c.toNat / 16),hexByte (c.toNat % 16)]
    else Utf8.writeChar c

def bodyOf (text : String) : Bytes := text.toList.flatMap escapeChar

def Value.ofText (text : String) : Value := .string (bodyOf text)
def Value.ofNat (n : Nat) : Value := .number (Utf8.write (Decimal.text n))

def digitsThen (bytes : Bytes) : Option (Bytes × Bytes) :=
  match bytes.takeWhile isDigit with
  | [] => none
  | digits => some (digits,bytes.dropWhile isDigit)

def readSign (bytes : Bytes) : Bytes × Bytes :=
  match bytes with
  | b :: rest => if b = 45 then ([b],rest) else ([],bytes)
  | [] => ([],[])

def readWhole (bytes : Bytes) : Option (Bytes × Bytes) :=
  match bytes with
  | b :: rest => if b = 48 then some ([b],rest) else digitsThen bytes
  | [] => none

def readFraction (bytes : Bytes) : Option (Bytes × Bytes) :=
  match bytes with
  | b :: rest =>
    if b = 46 then (digitsThen rest).map fun found => (b :: found.1,found.2) else some ([],bytes)
  | [] => some ([],[])

def readExponent (bytes : Bytes) : Option (Bytes × Bytes) :=
  match bytes with
  | e :: s :: rest =>
    if e = 101 ∨ e = 69 then
      if s = 43 ∨ s = 45 then (digitsThen rest).map fun found => (e :: s :: found.1,found.2)
      else (digitsThen (s :: rest)).map fun found => (e :: found.1,found.2)
    else some ([],bytes)
  | [e] => if e = 101 ∨ e = 69 then none else some ([],bytes)
  | [] => some ([],[])

def readNumber (bytes : Bytes) : Option (Bytes × Bytes) := do
  let (sign,r1) := readSign bytes
  let (whole,r2) ← readWhole r1
  let (fraction,r3) ← readFraction r2
  let (exponent,r4) ← readExponent r3
  return (sign ++ whole ++ fraction ++ exponent,r4)

def readWord (word : Bytes) (value : Value) (bytes : Bytes) : Option (Value × Bytes) :=
  (word.isPrefixOf? bytes).map fun rest => (value,rest)

def wordNull : Bytes := [110,117,108,108]
def wordTrue : Bytes := [116,114,117,101]
def wordFalse : Bytes := [102,97,108,115,101]

-- Every level of nesting and every further element costs at least one byte, so
-- a budget of the length bounds both.
mutual

def readValue : Nat → Bytes → Option (Value × Bytes)
  | 0,_ => none
  | budget+1,bytes =>
    match skipBlanks bytes with
    | [] => none
    | b :: rest =>
      if b = quote then (readBody rest).map fun found => (.string found.1,found.2)
      else if b = 91 then
        match skipBlanks rest with
        | [] => none
        | c :: tail =>
          if c = 93 then some (.array [],tail)
          else (readItems budget (c :: tail)).map fun found => (.array found.1,found.2)
      else if b = 123 then
        match skipBlanks rest with
        | [] => none
        | c :: tail =>
          if c = 125 then some (.object [],tail)
          else (readMembers budget (c :: tail)).map fun found => (.object found.1,found.2)
      else if b = 110 then readWord wordNull .null (b :: rest)
      else if b = 116 then readWord wordTrue (.bool true) (b :: rest)
      else if b = 102 then readWord wordFalse (.bool false) (b :: rest)
      else (readNumber (b :: rest)).map fun found => (.number found.1,found.2)

def readItems : Nat → Bytes → Option (List Value × Bytes)
  | 0,_ => none
  | budget+1,bytes => do
    let (item,rest) ← readValue budget bytes
    match skipBlanks rest with
    | [] => none
    | b :: tail =>
      if b = 93 then some ([item],tail)
      else if b = 44 then do
        let (items,last) ← readItems budget tail
        return (item :: items,last)
      else none

def readMembers : Nat → Bytes → Option (List (Bytes × Value) × Bytes)
  | 0,_ => none
  | budget+1,bytes =>
    match skipBlanks bytes with
    | [] => none
    | b :: rest =>
      if b = quote then do
        let (key,afterKey) ← readBody rest
        match skipBlanks afterKey with
        | [] => none
        | colon :: afterColon =>
          if colon = 58 then do
            let (value,afterValue) ← readValue budget afterColon
            match skipBlanks afterValue with
            | [] => none
            | c :: tail =>
              if c = 125 then some ([(key,value)],tail)
              else if c = 44 then do
                let (members,last) ← readMembers budget tail
                return ((key,value) :: members,last)
              else none
          else none
      else none

end

def read (bytes : Bytes) : Option Value := do
  let (value,rest) ← readValue (2 * bytes.length + 2) bytes
  if (skipBlanks rest).isEmpty then some value else none

def separate : List Bytes → Bytes
  | [] => []
  | [last] => last
  | first :: second :: others => first ++ 44 :: separate (second :: others)

mutual

def write : Value → Bytes
  | .null => wordNull
  | .bool true => wordTrue
  | .bool false => wordFalse
  | .number digits => digits
  | .string body => quote :: body ++ [quote]
  | .array items => 91 :: separate (writeItems items) ++ [93]
  | .object members => 123 :: separate (writeMembers members) ++ [125]

def writeItems : List Value → List Bytes
  | [] => []
  | item :: rest => write item :: writeItems rest

def writeMembers : List (Bytes × Value) → List Bytes
  | [] => []
  | (key,value) :: rest => (quote :: key ++ quote :: 58 :: write value) :: writeMembers rest

end
end TokenTransfer.Json
