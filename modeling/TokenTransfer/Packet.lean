import TokenTransfer.Address
import TokenTransfer.Amount
import TokenTransfer.ChannelEnd
import TokenTransfer.Height

namespace TokenTransfer

structure Packet where
  sequence : UInt64
  source : ChannelEnd
  destination : ChannelEnd
  data : Bytes
  timeoutHeight : Height
  timeoutTimestamp : UInt64
deriving DecidableEq

structure PacketId where
  source : ChannelEnd
  destination : ChannelEnd
  sequence : UInt64
deriving DecidableEq

def Packet.id (packet : Packet) : PacketId := ⟨packet.source,packet.destination,packet.sequence⟩

-- What a packet says. Parties are free text; a party that names an account is
-- read with `Address.read?`.
structure TransferData where
  denom : String
  amount : Amount
  sender : String
  receiver : String
  memo : String
deriving DecidableEq

structure TransferOrder where
  source : ChannelEnd
  denom : String
  amount : Amount
  receiver : String
  memo : String
  timeoutHeight : Height
  timeoutTimestamp : UInt64
deriving DecidableEq

structure TransferEvent where
  source : Address
  target : Address
  denom : String
  amount : Amount
deriving DecidableEq

namespace TransferEvent

def mint (target : Address) (denom : String) (amount : Amount) : TransferEvent := ⟨.zero,target,denom,amount⟩
def burn (source : Address) (denom : String) (amount : Amount) : TransferEvent := ⟨source,.zero,denom,amount⟩

def isMint (event : TransferEvent) : Bool := event.source == .zero
def isBurn (event : TransferEvent) : Bool := event.target == .zero

end TransferEvent

inductive Debit where
  | escrowed (escrow : Address)
  | burned
deriving DecidableEq

structure InFlight where
  sender : Address
  denom : String
  amount : Amount
  debit : Debit
deriving DecidableEq

end TokenTransfer
