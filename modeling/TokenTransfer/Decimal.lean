namespace TokenTransfer.Decimal

def digit (n : Nat) : Char := Char.ofNat (48 + n)

def value? (c : Char) : Option Nat :=
  if 48 ≤ c.toNat ∧ c.toNat ≤ 57 then some (c.toNat - 48) else none

def write (n : Nat) : List Char :=
  if n < 10 then [digit n] else write (n / 10) ++ [digit (n % 10)]
termination_by n

def readFrom : Nat → List Char → Option Nat
  | n,[] => some n
  | n,c :: rest => do
    let d ← value? c
    readFrom (10*n + d) rest

-- Digits only, leading zeros allowed. The empty text reads as zero; callers
-- that need a digit ask for one.
def read (digits : List Char) : Option Nat := readFrom 0 digits

def text (n : Nat) : String := String.ofList (write n)

end TokenTransfer.Decimal
