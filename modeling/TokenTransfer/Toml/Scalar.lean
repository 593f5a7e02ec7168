import TokenTransfer.Decimal
import TokenTransfer.Bytes
import TokenTransfer.Toml.Item

namespace TokenTransfer.Toml

-- Single values: texts, numbers and moments. Each reader answers the value and
-- what stands behind it.

def isBlank (c : Char) : Bool := c == ' ' || c == '\t'
def skipBlanks (chars : List Char) : List Char := chars.dropWhile isBlank

def readNewline : List Char → Option (List Char)
  | '\n' :: rest => some rest
  | '\r' :: '\n' :: rest => some rest
  | _ => none

def isPlain (c : Char) : Bool := c == '\t' || (32 ≤ c.toNat && c.toNat != 127)

def isDigit (c : Char) : Bool := (Decimal.value? c).isSome
def isHexDigit (c : Char) : Bool := (Hex.value? c).isSome
def isOctal (c : Char) : Bool := 48 ≤ c.toNat && c.toNat ≤ 55
def isBinary (c : Char) : Bool := c == '0' || c == '1'

def scalarOf (digits : List Char) : Option Char := do
  let values := digits.filterMap Hex.value?
  if values.length = digits.length then
    let n := values.foldl (fun n d => 16*n + d) 0
    if n < 0xD800 ∨ (0xDFFF < n ∧ n < 0x110000) then some (Char.ofNat n) else none
  else none

def readEscape : List Char → Option (Char × List Char)
  | 'b' :: rest => some (Char.ofNat 8,rest)
  | 't' :: rest => some ('\t',rest)
  | 'n' :: rest => some ('\n',rest)
  | 'f' :: rest => some (Char.ofNat 12,rest)
  | 'r' :: rest => some ('\r',rest)
  | '"' :: rest => some ('"',rest)
  | '\\' :: rest => some ('\\',rest)
  | 'u' :: a :: b :: c :: d :: rest => (scalarOf [a,b,c,d]).map fun x => (x,rest)
  | 'U' :: a :: b :: c :: d :: e :: f :: g :: h :: rest =>
    (scalarOf [a,b,c,d,e,f,g,h]).map fun x => (x,rest)
  | _ => none

-- The readers below start behind the opening quotes. Each step takes at least
-- one character, so the number of characters is budget enough.
def readBasic : Nat → List Char → Option (List Char × List Char)
  | 0,_ => none
  | budget+1,chars =>
    match chars with
    | [] => none
    | '"' :: rest => some ([],rest)
    | '\\' :: rest => do
      let (c,more) ← readEscape rest
      let (text,last) ← readBasic budget more
      return (c :: text,last)
    | c :: rest =>
      if isPlain c then (readBasic budget rest).map fun found => (c :: found.1,found.2) else none

def readLiteral : List Char → Option (List Char × List Char)
  | [] => none
  | c :: rest =>
    if c = Char.ofNat 39 then some ([],rest)
    else if isPlain c then (readLiteral rest).map fun found => (c :: found.1,found.2)
    else none

def skipLines : Nat → List Char → List Char
  | 0,chars => chars
  | budget+1,chars =>
    let here := skipBlanks chars
    match readNewline here with
    | some rest => skipLines budget rest
    | none => here

-- The closing run of a text of many lines: three quotes, and up to two more
-- that belong to the text.
def closing (quote : Char) (chars : List Char) : Option (List Char × List Char) :=
  let run := (chars.takeWhile (· == quote)).length
  if 3 ≤ run then
    let extra := min (run - 3) 2
    some (List.replicate extra quote,chars.drop (3 + extra))
  else none

def readLongBasic : Nat → List Char → Option (List Char × List Char)
  | 0,_ => none
  | budget+1,chars =>
    match closing '"' chars with
    | some found => some found
    | none =>
      match readNewline chars with
      | some rest => (readLongBasic budget rest).map fun found => ('\n' :: found.1,found.2)
      | none =>
        match chars with
        | [] => none
        | '\\' :: rest =>
          match readNewline (skipBlanks rest) with
          | some more => readLongBasic budget (skipLines budget more)
          | none => do
            let (c,more) ← readEscape rest
            let (text,last) ← readLongBasic budget more
            return (c :: text,last)
        | c :: rest =>
          if isPlain c then (readLongBasic budget rest).map fun found => (c :: found.1,found.2) else none

def readLongLiteral : Nat → List Char → Option (List Char × List Char)
  | 0,_ => none
  | budget+1,chars =>
    match closing (Char.ofNat 39) chars with
    | some found => some found
    | none =>
      match readNewline chars with
      | some rest => (readLongLiteral budget rest).map fun found => ('\n' :: found.1,found.2)
      | none =>
        match chars with
        | [] => none
        | c :: rest =>
          if isPlain c then (readLongLiteral budget rest).map fun found => (c :: found.1,found.2) else none

-- A newline right behind the opening quotes is not part of the text.
def trimFirst (chars : List Char) : List Char := (readNewline chars).getD chars

def readText (chars : List Char) : Option (List Char × List Char) :=
  let budget := chars.length + 1
  let quote := Char.ofNat 39
  match chars with
  | a :: b :: c :: rest =>
    if a = '"' then
      if b = '"' ∧ c = '"' then readLongBasic budget (trimFirst rest)
      else readBasic budget (b :: c :: rest)
    else if a = quote then
      if b = quote ∧ c = quote then readLongLiteral budget (trimFirst rest)
      else readLiteral (b :: c :: rest)
    else none
  | a :: rest => if a = '"' then readBasic budget rest else if a = quote then readLiteral rest else none
  | [] => none

def moreDigits (admits : Char → Bool) : List Char → Option (List Char × List Char)
  | [] => some ([],[])
  | c :: rest =>
    if c = '_' then
      match rest with
      | [] => none
      | d :: more =>
        if admits d then (moreDigits admits more).map fun found => (d :: found.1,found.2) else none
    else if admits c then (moreDigits admits rest).map fun found => (c :: found.1,found.2)
    else some ([],c :: rest)

def readDigits (admits : Char → Bool) : List Char → Option (List Char × List Char)
  | [] => none
  | c :: rest =>
    if admits c then (moreDigits admits rest).map fun found => (c :: found.1,found.2) else none

def readSign : List Char → Bool × List Char
  | '+' :: rest => (false,rest)
  | '-' :: rest => (true,rest)
  | rest => (false,rest)

def readWhole (chars : List Char) : Option (List Char × List Char) :=
  match chars with
  | '0' :: rest => some (['0'],rest)
  | _ => readDigits isDigit chars

def numberOf (base : Nat) (digits : List Char) : Nat :=
  digits.foldl (fun n c => base*n + (Hex.value? c).getD 0) 0

def integerBound : Nat := 0x8000000000000000

def readBased (base : Nat) (admits : Char → Bool) (chars : List Char) : Option (Item × List Char) := do
  let (digits,rest) ← readDigits admits chars
  let n := numberOf base digits
  if n < integerBound then some (.integer n,rest) else none

def readInteger (chars : List Char) : Option (Item × List Char) :=
  match chars with
  | '0' :: 'x' :: rest => readBased 16 isHexDigit rest
  | '0' :: 'o' :: rest => readBased 8 isOctal rest
  | '0' :: 'b' :: rest => readBased 2 isBinary rest
  | _ => do
    let (negative,unsigned) := readSign chars
    let (digits,rest) ← readWhole unsigned
    let n := numberOf 10 digits
    if negative then
      if n ≤ integerBound then some (.integer (-(n : Int)),rest) else none
    else if n < integerBound then some (.integer n,rest) else none

-- Whether a decimal is too large for a double: from the midpoint past the
-- largest one on. Far exponents are decided by the number of digits.
def tooLarge (mantissa : Nat) (digits : Nat) (exponent : Int) : Bool :=
  let limit := Nat.pow 2 1024 - Nat.pow 2 970
  if mantissa = 0 then false
  else if (digits : Int) + exponent < 300 then false
  else if 400 < (digits : Int) + exponent then true
  else if 0 ≤ exponent then limit ≤ mantissa * Nat.pow 10 exponent.toNat
  else limit * Nat.pow 10 (-exponent).toNat ≤ mantissa

def readExponent : List Char → Option (Int × List Char)
  | e :: rest => do
    if e = 'e' ∨ e = 'E' then
      let (negative,unsigned) := readSign rest
      let (digits,last) ← readDigits isDigit unsigned
      let n : Int := numberOf 10 digits
      return (if negative then -n else n,last)
    else none
  | [] => none

def readFloat (chars : List Char) : Option (Item × List Char) := do
  let (negative,unsigned) := readSign chars
  let (whole,afterWhole) ← readWhole unsigned
  let (fraction,exponent,rest) ←
    match afterWhole with
    | '.' :: more => do
      let (fraction,afterFraction) ← readDigits isDigit more
      match afterFraction with
      | 'e' :: _ | 'E' :: _ => do
        let (exponent,rest) ← readExponent afterFraction
        some (fraction,exponent,rest)
      | _ => some (fraction,0,afterFraction)
    | _ => do
      let (exponent,rest) ← readExponent afterWhole
      some ([],exponent,rest)
  let digits := whole ++ fraction
  let significant := (digits.dropWhile (· == '0')).length
  if !negative && tooLarge (numberOf 10 digits) significant (exponent - fraction.length) then none
  else some (.float (String.ofList (chars.take (chars.length - rest.length))),rest)

def readNamedFloat (chars : List Char) : Option (Item × List Char) :=
  let (_,unsigned) := readSign chars
  match unsigned with
  | 'i' :: 'n' :: 'f' :: rest => some (.float (String.ofList (chars.take (chars.length - rest.length))),rest)
  | 'n' :: 'a' :: 'n' :: rest => some (.float (String.ofList (chars.take (chars.length - rest.length))),rest)
  | _ => none

def readFixed : Nat → List Char → Option (Nat × List Char)
  | count,chars =>
    let digits := chars.take count
    if digits.length = count ∧ digits.all isDigit = true then some (numberOf 10 digits,chars.drop count)
    else none

def expect (c : Char) : List Char → Option (List Char)
  | d :: rest => if c = d then some rest else none
  | [] => none

def daysIn (year month : Nat) : Nat :=
  if month = 2 then
    if year % 4 = 0 ∧ (year % 100 ≠ 0 ∨ year % 400 = 0) then 29 else 28
  else if month = 4 ∨ month = 6 ∨ month = 9 ∨ month = 11 then 30
  else 31

def readDate (chars : List Char) : Option (List Char) := do
  let (year,r1) ← readFixed 4 chars
  let r2 ← expect '-' r1
  let (month,r3) ← readFixed 2 r2
  let r4 ← expect '-' r3
  let (day,rest) ← readFixed 2 r4
  if 1 ≤ month ∧ month ≤ 12 ∧ 1 ≤ day ∧ day ≤ daysIn year month then some rest else none

def readClock (chars : List Char) : Option (List Char) := do
  let (hour,r1) ← readFixed 2 chars
  let r2 ← expect ':' r1
  let (minute,rest) ← readFixed 2 r2
  if hour < 24 ∧ minute < 60 then some rest else none

def readTime (chars : List Char) : Option (List Char) := do
  let r1 ← readClock chars
  let r2 ← expect ':' r1
  let (second,rest) ← readFixed 2 r2
  if second ≤ 60 then
    match rest with
    | '.' :: more => if (more.takeWhile isDigit).isEmpty then none else some (more.dropWhile isDigit)
    | _ => some rest
  else none

def readOffset : List Char → Option (List Char)
  | c :: rest =>
    if c = 'Z' ∨ c = 'z' then some rest
    else if c = '+' ∨ c = '-' then readClock rest
    else none
  | [] => none

def readZonedTime (chars : List Char) : Option (List Char) := do
  let rest ← readTime chars
  match rest with
  | '+' :: _ | '-' :: _ | 'Z' :: _ | 'z' :: _ => readOffset rest
  | _ => some rest

def readMoment (chars : List Char) : Option (Item × List Char) := do
  let rest ←
    match readDate chars with
    | some (c :: rest) =>
      if c = 'T' ∨ c = 't' ∨ c = ' ' then some ((readZonedTime rest).getD (c :: rest)) else some (c :: rest)
    | some [] => some []
    | none => readTime chars
  return (.moment (String.ofList (chars.take (chars.length - rest.length))),rest)

def readScalar (chars : List Char) : Option (Item × List Char) :=
  match chars with
  | 't' :: 'r' :: 'u' :: 'e' :: rest => some (.bool true,rest)
  | 'f' :: 'a' :: 'l' :: 's' :: 'e' :: rest => some (.bool false,rest)
  | _ =>
    match readText chars with
    | some (text,rest) => some (.text (String.ofList text),rest)
    | none => (readMoment chars).or ((readFloat chars).or ((readNamedFloat chars).or (readInteger chars)))

end TokenTransfer.Toml
