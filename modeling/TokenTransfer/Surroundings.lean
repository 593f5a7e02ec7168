import TokenTransfer.Ledger
import TokenTransfer.Registry

namespace TokenTransfer

-- What the application is told when it asks. The ledger's report of a balance
-- need not be the balance: a credit is decided on the report and carried out
-- on the ledger.
structure Surroundings where
  balance : Ledger → Address → String → Amount
  escrow : EscrowRegistry → String → Option Address
  boundPort : ChannelRegistry → Option String
  peer : ChannelRegistry → ChannelEnd → Option ChannelEnd

namespace Surroundings

def plain : Surroundings :=
  ⟨Ledger.balance,EscrowRegistry.account?,ChannelRegistry.boundPort,ChannelRegistry.peer?⟩

def withEscrows (accounts : List (String × Address)) (s : Surroundings) : Surroundings :=
  {s with escrow := fun _ channel => List.lookup channel accounts}

def withChannels (boundPort : Option String) (peer : Option ChannelEnd) (s : Surroundings) : Surroundings :=
  {s with boundPort := fun _ => boundPort, peer := fun _ _ => peer}

def withOpenChannels (s : Surroundings) : Surroundings :=
  s.withChannels none (some ⟨"transfer","channel-counterparty"⟩)

def overreporting (extra : Amount) (s : Surroundings) : Surroundings :=
  {s with balance := fun ledger account denom => (s.balance ledger account denom).addCapped extra}

end Surroundings
end TokenTransfer
