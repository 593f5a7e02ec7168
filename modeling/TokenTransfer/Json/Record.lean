import TokenTransfer.Json

namespace TokenTransfer.Json

-- A record is an object by field name or an array by field order. Fields that
-- are not asked for are passed over; a field that is asked for stands once.
def named : List (Bytes × Value) → Option (List (String × Value))
  | [] => some []
  | (key,value) :: rest => do
    let name ← textOf key
    let others ← named rest
    return (name,value) :: others

def fieldsByName (names : List String) (members : List (Bytes × Value)) : Option (List (Option Value)) := do
  let known := (← named members).filter fun member => names.contains member.1
  if (known.map Prod.fst).Nodup then some (names.map fun name => List.lookup name known) else none

-- `least` fields have to be there in an array; the ones behind them may be cut off.
def fields (names : List String) (least : Nat) : Value → Option (List (Option Value))
  | .object members => fieldsByName names members
  | .array items =>
    if least ≤ items.length ∧ items.length ≤ names.length then
      some (items.map some ++ List.replicate (names.length - items.length) none)
    else none
  | _ => none

def present : List (Option Value) → Option (List Value)
  | [] => some []
  | none :: _ => none
  | some value :: rest => (present rest).map (value :: ·)

def record (names : List String) (value : Value) : Option (List Value) :=
  (fields names names.length value).bind present

def Value.text? : Value → Option String
  | .string body => textOf body
  | _ => none

def Value.bool? : Value → Option Bool
  | .bool truth => some truth
  | _ => none

def Value.nat? (bound : Nat) : Value → Option Nat
  | .number digits =>
    if digits.all isDigit then
      (Decimal.read (digits.map fun b => Char.ofNat b.toNat)).bind fun n => if n < bound then some n else none
    else none
  | _ => none

def Value.word? (value : Value) : Option UInt64 := (value.nat? UInt64.size).map UInt64.ofNat

def readBytes : List Value → Option Bytes
  | [] => some []
  | value :: rest => do
    let n ← value.nat? 256
    let bytes ← readBytes rest
    return UInt8.ofNat n :: bytes

def Value.bytes? : Value → Option Bytes
  | .array items => readBytes items
  | _ => none

def Value.ofBytes (bytes : Bytes) : Value := .array (bytes.map fun b => .ofNat b.toNat)
def Value.ofWord (n : UInt64) : Value := .ofNat n.toNat

def variant : Value → Option (String × Option Value)
  | .string body => (textOf body).map fun name => (name,none)
  | .object [(key,value)] => (textOf key).map fun name => (name,some value)
  | _ => none

def Value.ofFields (members : List (String × Value)) : Value :=
  .object (members.map fun member => (bodyOf member.1,member.2))

end TokenTransfer.Json
