import TokenTransfer.Call
import TokenTransfer.Denomination
import TokenTransfer.Guard
import TokenTransfer.Table

namespace TokenTransfer

structure EscrowRegistry where
  owner : Address
  accounts : Table String Address
deriving DecidableEq

namespace EscrowRegistry

def new (owner : Address) : EscrowRegistry := ⟨owner,.empty⟩

-- The zero address reads back as none.
def account? (registry : EscrowRegistry) (channel : String) : Option Address :=
  (registry.accounts.find channel).filter (· != .zero)

def handOver (caller newOwner : Address) : Call EscrowRegistry Unit := do
  Call.check (Guard.authorized caller (← get).owner .owner)
  modify fun registry => {registry with owner := newOwner}

def set (caller : Address) (channel : String) (account : Address) : Call EscrowRegistry Unit := do
  Call.check (Guard.authorized caller (← get).owner .owner)
  modify fun registry => {registry with accounts := registry.accounts.put channel account}

def setDerived (caller : Address) (place : ChannelEnd) : Call EscrowRegistry Address := do
  let account := Denomination.escrowAccount place
  set caller place.channel account
  return account

end EscrowRegistry

structure ChannelRegistry where
  owner : Address
  boundPort : Option String
  peers : Table ChannelEnd ChannelEnd
deriving DecidableEq

namespace ChannelRegistry

def new (owner : Address) : ChannelRegistry := ⟨owner,none,.empty⟩

def peer? (registry : ChannelRegistry) (place : ChannelEnd) : Option ChannelEnd := registry.peers.find place

def handOver (caller newOwner : Address) : Call ChannelRegistry Unit := do
  Call.check (Guard.authorized caller (← get).owner .owner)
  modify fun registry => {registry with owner := newOwner}

def bindPort (caller : Address) (port : String) : Call ChannelRegistry Unit := do
  Call.check (Guard.authorized caller (← get).owner .owner)
  modify fun registry => {registry with boundPort := some port}

def openChannel (caller : Address) (place peer : ChannelEnd) : Call ChannelRegistry Unit := do
  Call.check (Guard.authorized caller (← get).owner .owner)
  modify fun registry => {registry with peers := registry.peers.put place peer}

end ChannelRegistry
end TokenTransfer
