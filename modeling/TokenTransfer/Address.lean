import TokenTransfer.Bytes

namespace TokenTransfer

structure Address where
  bytes : Bytes
  size : bytes.length = 20
deriving DecidableEq

namespace Address

-- The zero address is where minted tokens come from and burned ones go.
def zero : Address := ⟨List.replicate 20 0,rfl⟩

instance : Inhabited Address := ⟨zero⟩

def ofBytes? (bytes : Bytes) : Option Address :=
  if h : bytes.length = 20 then some ⟨bytes,h⟩ else none

def text (a : Address) : String := String.ofList ('0' :: 'x' :: Hex.write a.bytes)

def read? (party : String) : Option Address :=
  match party.toList with
  | '0' :: x :: digits => if x = 'x' ∨ x = 'X' then (Hex.read digits).bind ofBytes? else none
  | _ => none

end Address
end TokenTransfer
