namespace TokenTransfer

abbrev Bytes := List UInt8

namespace Hex

-- Two lowercase digits a byte. Reading takes either case and refuses an odd
-- digit out, so writing what was read only changes letter case.
def digit (n : Nat) : Char := Char.ofNat (if n < 10 then 48 + n else 87 + n)

def value? (c : Char) : Option Nat :=
  if 48 ≤ c.toNat ∧ c.toNat ≤ 57 then some (c.toNat - 48)
  else if 97 ≤ c.toNat ∧ c.toNat ≤ 102 then some (c.toNat - 87)
  else if 65 ≤ c.toNat ∧ c.toNat ≤ 70 then some (c.toNat - 55)
  else none

def writeByte (b : UInt8) : List Char := [digit (b.toNat / 16),digit (b.toNat % 16)]

def write (bytes : Bytes) : List Char := bytes.flatMap writeByte

def read : List Char → Option Bytes
  | [] => some []
  | [_] => none
  | high :: low :: rest => do
    let h ← value? high
    let l ← value? low
    let bytes ← read rest
    return UInt8.ofNat (16*h + l) :: bytes

theorem digit_value (n : Nat) (small : n < 16) : value? (digit n) = some n := by
  have checked : ∀ m : Fin 16, value? (digit m.val) = some m.val := by decide
  exact checked ⟨n,small⟩

theorem hex_roundtrip (bytes : Bytes) : read (write bytes) = some bytes := by
  induction bytes with
  | nil => rfl
  | cons b rest ih =>
    have bound := b.toNat_lt
    have back : UInt8.ofNat (16*(b.toNat/16) + b.toNat%16) = b := by
      rw [Nat.div_add_mod,UInt8.ofNat_toNat]
    simp only [write] at ih
    simp only [write,List.flatMap_cons,writeByte,List.cons_append,List.nil_append,read,
      digit_value (b.toNat/16) (by omega),digit_value (b.toNat%16) (by omega),ih,
      Option.bind_eq_bind,Option.bind_some,back]
    rfl

end Hex

namespace BigEndian

def write : Nat → Nat → Bytes
  | 0,_ => []
  | width+1,n => write width (n / 256) ++ [UInt8.ofNat n]

def read (bytes : Bytes) : Nat := bytes.foldl (fun value b => 256*value + b.toNat) 0

theorem write_length (width n : Nat) : (write width n).length = width := by
  induction width generalizing n with
  | zero => rfl
  | succ width ih => simp [write,ih]

theorem read_append (bytes : Bytes) (b : UInt8) : read (bytes ++ [b]) = 256*read bytes + b.toNat := by
  simp [read]

theorem big_endian_roundtrip (width n : Nat) (fits : n < Nat.pow 256 width) : read (write width n) = n := by
  induction width generalizing n with
  | zero => simp at fits; subst n; rfl
  | succ width ih =>
    have wider : Nat.pow 256 (width+1) = Nat.pow 256 width * 256 := rfl
    have upper : n / 256 < Nat.pow 256 width := Nat.div_lt_of_lt_mul (by omega)
    rw [write,read_append,ih _ upper,UInt8.toNat_ofNat']
    omega

end BigEndian
end TokenTransfer
