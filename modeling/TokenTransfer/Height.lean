import TokenTransfer.Decimal

namespace TokenTransfer

structure Height where
  revision : UInt64
  block : UInt64
deriving DecidableEq

namespace Height

def zero : Height := ⟨0,0⟩

def text (h : Height) : String := Decimal.text h.revision.toNat ++ "-" ++ Decimal.text h.block.toNat

def isZero (h : Height) : Bool := h.revision == 0 && h.block == 0

def order (a b : Height) : Ordering := (compare a.revision b.revision).then (compare a.block b.block)

end Height
end TokenTransfer
