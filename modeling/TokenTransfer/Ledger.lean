import TokenTransfer.Call
import TokenTransfer.Guard
import TokenTransfer.Packet
import TokenTransfer.Table

namespace TokenTransfer

structure Ledger where
  owner : Address
  operator : Address
  balances : Table (Address × String) Amount
  events : List TransferEvent
deriving DecidableEq

namespace Ledger

def new (owner : Address) : Ledger := ⟨owner,.zero,.empty,[]⟩

def balance (ledger : Ledger) (account : Address) (denom : String) : Amount :=
  (ledger.balances.find (account,denom)).getD .zero

def setBalance (ledger : Ledger) (account : Address) (denom : String) (amount : Amount) : Ledger :=
  {ledger with balances := ledger.balances.put (account,denom) amount}

def totalSupply (ledger : Ledger) (denom : String) : Amount :=
  (ledger.balances.entries.filter fun entry => entry.1.2 == denom).foldl
    (fun total entry => total.addCapped entry.2) .zero

def handOver (caller newOwner : Address) : Call Ledger Unit := do
  Call.check (Guard.authorized caller (← get).owner .owner)
  modify fun ledger => {ledger with owner := newOwner}

def setOperator (caller operator : Address) : Call Ledger Unit := do
  Call.check (Guard.authorized caller (← get).owner .owner)
  modify fun ledger => {ledger with operator}

-- Nobody is the operator while none is set, the zero address included.
def authorizeOperator (ledger : Ledger) (caller : Address) : Except TransferError Unit :=
  if ledger.operator = .zero then .error (.unauthorized caller .operator)
  else Guard.authorized caller ledger.operator .operator

def record (event : TransferEvent) : Call Ledger TransferEvent := do
  modify fun ledger => {ledger with events := ledger.events ++ [event]}
  return event

def mint (caller target : Address) (denom : String) (amount : Amount) : Call Ledger TransferEvent := do
  let ledger ← get
  Call.check (ledger.authorizeOperator caller)
  let sum ← Call.check (Guard.credited target denom (ledger.balance target denom) amount)
  modify (·.setBalance target denom sum)
  record (.mint target denom amount)

def burn (caller source : Address) (denom : String) (amount : Amount) : Call Ledger TransferEvent := do
  let ledger ← get
  Call.check (ledger.authorizeOperator caller)
  let left ← Call.check (Guard.remaining source denom (ledger.balance source denom) amount)
  modify (·.setBalance source denom left)
  record (.burn source denom amount)

-- Both balances are settled before either is written. To itself an account
-- moves nothing, but it must hold the amount, and the event is recorded.
def transfer (caller source target : Address) (denom : String) (amount : Amount) :
    Call Ledger TransferEvent := do
  let ledger ← get
  Call.check (ledger.authorizeOperator caller)
  let left ← Call.check (Guard.remaining source denom (ledger.balance source denom) amount)
  if source ≠ target then
    let sum ← Call.check (Guard.credited target denom (ledger.balance target denom) amount)
    modify (·.setBalance source denom left)
    modify (·.setBalance target denom sum)
  record ⟨source,target,denom,amount⟩

end Ledger
end TokenTransfer
