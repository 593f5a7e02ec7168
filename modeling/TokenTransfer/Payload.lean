import TokenTransfer.Abi
import TokenTransfer.Error
import TokenTransfer.Json.Record
import TokenTransfer.Packet

namespace TokenTransfer

inductive PayloadEncoding where
  | abiAddress
  | abiBytes
  | json
deriving DecidableEq

namespace PayloadEncoding

def text : PayloadEncoding → String
  | .abiAddress => "abi-address"
  | .abiBytes => "abi-bytes"
  | .json => "json"

def read? (name : String) : Option PayloadEncoding :=
  if name = "abi-address" then some .abiAddress
  else if name = "abi-bytes" then some .abiBytes
  else if name = "json" then some .json
  else none

instance : Inhabited PayloadEncoding := ⟨.abiAddress⟩

end PayloadEncoding

namespace Payload

def requirePositive (amount : Amount) : Except PayloadError Unit :=
  if amount.units = 0 then .error .amountZero else .ok ()

def accountOf (party : String) : Except PayloadError Address :=
  match Address.read? party with
  | some address => .ok address
  | none => .error (.badAddress party)

def partyOfBytes (bytes : Bytes) : Except PayloadError String :=
  match Address.ofBytes? bytes with
  | some address =>
    if Utf8.readsAsText bytes then
      match Utf8.read bytes with
      | some party => .ok party
      | none => .error .partyNotText
    else .ok address.text
  | none =>
    match Utf8.read bytes with
    | some party => .ok party
    | none => .error .partyNotText

-- An account goes as its bytes when those cannot be taken for text. A text that
-- would come back as an account is refused.
def bytesOfParty (party : String) : Except PayloadError Bytes :=
  match Address.read? party with
  | some address => if Utf8.readsAsText address.bytes then .ok (Utf8.write party) else .ok address.bytes
  | none =>
    if (Utf8.write party).length = 20 ∧ Utf8.readsAsText (Utf8.write party) = false then
      .error (.partyAmbiguous party)
    else .ok (Utf8.write party)

def addressLayout : List Abi.Kind := [.text,.number,.text,.account,.text]
def bytesLayout : List Abi.Kind := [.text,.number,.bytes,.bytes,.text]

def partyOfValue : Abi.Value → Except PayloadError String
  | .text party => .ok party
  | .account address => .ok address.text
  | .bytes bytes => partyOfBytes bytes
  | .number _ => .error (.shape "party")

def ofTuple : List Abi.Value → Except PayloadError TransferData
  | [.text denom,.number units,sender,receiver,.text memo] =>
    match Amount.ofNat? units with
    | none => .error (.shape "amount")
    | some amount => do
      let sender ← partyOfValue sender
      let receiver ← partyOfValue receiver
      if denom.isEmpty then .error .denomMissing
      else .ok ⟨denom,amount,sender,receiver,memo⟩
  | _ => .error (.shape "tuple")

def decodeTuple (layout : List Abi.Kind) (bytes : Bytes) : Except PayloadError TransferData :=
  match Abi.readTuple layout bytes with
  | .error fault => .error (.tuple fault.message)
  | .ok values => ofTuple values

def fieldNames : List String := ["denom","amount","sender","receiver","memo"]

def optionalText : Option Json.Value → Option (Option String)
  | none => some none
  | some .null => some none
  | some value => value.text?.map some

def optionalTexts : List (Option Json.Value) → Option (List (Option String))
  | [] => some []
  | field :: rest => do
    let text ← optionalText field
    let texts ← optionalTexts rest
    return text :: texts

def requireText (error : PayloadError) : Option String → Except PayloadError String
  | none => .error error
  | some text => if text.isEmpty then .error error else .ok text

def ofFields : List (Option String) → Except PayloadError TransferData
  | [denom,amount,sender,receiver,memo] => do
    let denom ← requireText .denomMissing denom
    let digits ← requireText .amountMissing amount
    match Amount.read? digits with
    | none => .error (.amountFormat digits)
    | some amount => do
      let sender ← requireText .senderMissing sender
      let receiver ← requireText .receiverMissing receiver
      .ok ⟨denom,amount,sender,receiver,memo.getD ""⟩
  | _ => .error (.shape "object")

def jsonFields (bytes : Bytes) : Option (List (Option String)) := do
  let value ← Json.read bytes
  optionalTexts (← Json.fields fieldNames 0 value)

def decodeJson (bytes : Bytes) : Except PayloadError TransferData :=
  match jsonFields bytes with
  | none => .error (.json "not a transfer object")
  | some texts => ofFields texts

def decode (encoding : PayloadEncoding) (bytes : Bytes) : Except PayloadError TransferData := do
  let data ← match encoding with
    | .abiAddress => decodeTuple addressLayout bytes
    | .abiBytes => decodeTuple bytesLayout bytes
    | .json => decodeJson bytes
  requirePositive data.amount
  return data

def toTuple (data : TransferData) (sender receiver : Abi.Value) : Bytes :=
  Abi.writeTuple [.text data.denom,.number data.amount.units,sender,receiver,.text data.memo]

def toJson (data : TransferData) : Json.Value :=
  .ofFields ([("denom",.ofText data.denom),("amount",.ofText data.amount.text),
    ("sender",.ofText data.sender),("receiver",.ofText data.receiver)] ++
    if data.memo.isEmpty then [] else [("memo",.ofText data.memo)])

def encode (encoding : PayloadEncoding) (data : TransferData) : Except PayloadError Bytes := do
  requirePositive data.amount
  match encoding with
  | .abiAddress => do
    let receiver ← accountOf data.receiver
    return toTuple data (.text data.sender) (.account receiver)
  | .abiBytes => do
    let sender ← bytesOfParty data.sender
    let receiver ← bytesOfParty data.receiver
    return toTuple data (.bytes sender) (.bytes receiver)
  | .json => return Json.write (toJson data)

end Payload
end TokenTransfer
