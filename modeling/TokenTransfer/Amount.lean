import TokenTransfer.Decimal

namespace TokenTransfer

def amountBound : Nat := 0x10000000000000000000000000000000000000000000000000000000000000000

theorem amountBound_word : amountBound = Nat.pow 256 32 := by decide

structure Amount where
  units : Nat
  bounded : units < amountBound
deriving DecidableEq

namespace Amount

def zero : Amount := ⟨0,by decide⟩
def most : Amount := ⟨amountBound - 1,by decide⟩

def ofNat? (n : Nat) : Option Amount := if h : n < amountBound then some ⟨n,h⟩ else none

def add? (a b : Amount) : Option Amount := ofNat? (a.units + b.units)

def sub? (a b : Amount) : Option Amount :=
  if a.units < b.units then none
  else some ⟨a.units - b.units,Nat.lt_of_le_of_lt (Nat.sub_le _ _) a.bounded⟩

-- Totals and reported figures stop at the largest amount instead of failing.
def addCapped (a b : Amount) : Amount := (a.add? b).getD most

def text (a : Amount) : String := Decimal.text a.units

def read? (digits : String) : Option Amount := (Decimal.read digits.toList).bind ofNat?

instance : Inhabited Amount := ⟨zero⟩

end Amount
end TokenTransfer
