import TokenTransfer.Error

namespace TokenTransfer.Guard

def authorized (caller expected : Address) (role : Role) : Except TransferError Unit :=
  if caller = expected then .ok () else .error (.unauthorized caller role)

def remaining (account : Address) (denom : String) (balance amount : Amount) : Except TransferError Amount :=
  match balance.sub? amount with
  | some left => .ok left
  | none => .error (.balanceShort account denom amount balance)

def credited (account : Address) (denom : String) (balance amount : Amount) : Except TransferError Amount :=
  match balance.add? amount with
  | some sum => .ok sum
  | none => .error (.overflow account denom)

def covered (channel denom : String) (balance amount : Amount) : Except TransferError Unit :=
  if balance.units < amount.units then .error (.escrowShort channel denom amount balance) else .ok ()

end TokenTransfer.Guard
