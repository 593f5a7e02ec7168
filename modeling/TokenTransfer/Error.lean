import TokenTransfer.Address
import TokenTransfer.Amount
import TokenTransfer.ChannelEnd

namespace TokenTransfer

-- Every way a call can be refused, its text, and its label. The role is the one
-- that the caller would have needed.
inductive Role where
  | transport
  | owner
  | operator
deriving DecidableEq

def Role.text : Role → String
  | .transport => "transport"
  | .owner => "owner"
  | .operator => "operator"

inductive PayloadError where
  | tuple (detail : String)
  | json (detail : String)
  | shape (detail : String)
  | denomMissing
  | amountMissing
  | amountFormat (digits : String)
  | amountZero
  | senderMissing
  | receiverMissing
  | badAddress (party : String)
  | partyNotText
  | partyAmbiguous (party : String)
deriving DecidableEq

def PayloadError.message : PayloadError → String
  | .tuple detail => "bad abi data: " ++ detail
  | .json detail => "bad json data: " ++ detail
  | .shape detail => "unexpected payload shape: " ++ detail
  | .denomMissing => "denom not found"
  | .amountMissing => "amount not found"
  | .amountFormat digits => "amount has unknown format: " ++ digits
  | .amountZero => "amount must be greater than zero"
  | .senderMissing => "sender not found"
  | .receiverMissing => "receiver not found"
  | .badAddress party => "bad address: " ++ party
  | .partyNotText => "party bytes are not valid utf-8"
  | .partyAmbiguous party => "party '" ++ party ++ "' cannot be told apart from a raw address"

inductive TransferError where
  | unauthorized (caller : Address) (role : Role)
  | malformedPayload (cause : PayloadError)
  | escrowShort (channel denom : String) (required available : Amount)
  | balanceShort (account : Address) (denom : String) (required available : Amount)
  | overflow (account : Address) (denom : String)
  | receiveDisabled
  | sendDisabled
  | wrongPort (expected got : String)
  | channelNotFound (place : ChannelEnd)
  | escrowNotConfigured (channel : String)
  | alreadySettled (source : ChannelEnd) (sequence : UInt64)
deriving DecidableEq

def TransferError.message : TransferError → String
  | .unauthorized caller role => "Unauthorized: " ++ caller.text ++ " is not the " ++ role.text
  | .malformedPayload cause => "Malformed payload: " ++ cause.message
  | .escrowShort channel denom required available =>
    "Insufficient escrow balance on channel '" ++ channel ++ "' for " ++ denom ++
      ": required " ++ required.text ++ ", available " ++ available.text
  | .balanceShort account denom required available =>
    "insufficient balance for transfer: " ++ account.text ++ " holds " ++ available.text ++ " " ++
      denom ++ ", required " ++ required.text
  | .overflow account denom => "Balance overflow: " ++ account.text ++ " " ++ denom
  | .receiveDisabled => "Receive disabled"
  | .sendDisabled => "Send disabled"
  | .wrongPort expected got => "Invalid port: expected '" ++ expected ++ "', got '" ++ got ++ "'"
  | .channelNotFound place => "Channel not found: " ++ place.path
  | .escrowNotConfigured channel => "Escrow not configured for channel '" ++ channel ++ "'"
  | .alreadySettled source sequence =>
    "Packet " ++ source.path ++ "#" ++ Decimal.text sequence.toNat ++ " already settled"

inductive ErrorKind where
  | balanceOverflow
  | channelNotFound
  | escrowNotConfigured
  | insufficientBalance
  | insufficientEscrow
  | invalidPort
  | malformedPayload
  | alreadySettled
  | receiveDisabled
  | sendDisabled
  | unauthorized
deriving DecidableEq

def ErrorKind.label : ErrorKind → String
  | .balanceOverflow => "overflow"
  | .channelNotFound => "channel_not_found"
  | .escrowNotConfigured => "escrow_not_configured"
  | .insufficientBalance => "insufficient_balance"
  | .insufficientEscrow => "insufficient_escrow_balance"
  | .invalidPort => "invalid_port"
  | .malformedPayload => "malformed_payload"
  | .alreadySettled => "packet_already_settled"
  | .receiveDisabled => "receive_disabled"
  | .sendDisabled => "send_disabled"
  | .unauthorized => "unauthorized"

def TransferError.kind : TransferError → ErrorKind
  | .unauthorized .. => .unauthorized
  | .malformedPayload _ => .malformedPayload
  | .escrowShort .. => .insufficientEscrow
  | .balanceShort .. => .insufficientBalance
  | .overflow .. => .balanceOverflow
  | .receiveDisabled => .receiveDisabled
  | .sendDisabled => .sendDisabled
  | .wrongPort .. => .invalidPort
  | .channelNotFound _ => .channelNotFound
  | .escrowNotConfigured _ => .escrowNotConfigured
  | .alreadySettled .. => .alreadySettled

end TokenTransfer
