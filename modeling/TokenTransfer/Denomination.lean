import TokenTransfer.Address
import TokenTransfer.ChannelEnd
import TokenTransfer.Sha256
import TokenTransfer.Utf8

namespace TokenTransfer.Denomination

def unwrap? (place : ChannelEnd) (denom : String) : Option String :=
  (place.hop.toList.isPrefixOf? denom.toList).map String.ofList

def wrap (place : ChannelEnd) (denom : String) : String := place.hop ++ denom

def carries (place : ChannelEnd) (denom : String) : Bool := (unwrap? place denom).isSome

-- A sender burns what came over the end it sends by, and escrows all else.
def leavesHome (place : ChannelEnd) (denom : String) : Bool := !carries place denom

inductive Direction where
  | returning
  | forwarded
deriving DecidableEq

def direction (sender : ChannelEnd) (denom : String) : Direction :=
  if carries sender denom then .returning else .forwarded

def escrowPreimage (place : ChannelEnd) : Bytes :=
  Utf8.write "ics20-1" ++ 0 :: Utf8.write place.path

def escrowAccount (place : ChannelEnd) : Address :=
  ⟨(Sha256.hash (escrowPreimage place)).take 20,by simp [Sha256.hash_length]⟩

end TokenTransfer.Denomination
