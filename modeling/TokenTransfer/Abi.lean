import TokenTransfer.Address
import TokenTransfer.Utf8

namespace TokenTransfer.Abi

-- One tuple with members of variable length: its place, then a word a member
-- (the value, or where its block stands), then the blocks.
inductive Kind where
  | text
  | number
  | bytes
  | account
deriving DecidableEq

inductive Value where
  | text (text : String)
  | number (n : Nat)
  | bytes (bytes : Bytes)
  | account (address : Address)
deriving DecidableEq

def Value.kind : Value → Kind
  | .text _ => .text
  | .number _ => .number
  | .bytes _ => .bytes
  | .account _ => .account

inductive Fault where
  | empty
  | malformed
deriving DecidableEq

def Fault.message : Fault → String
  | .empty => "Invalid name: please ensure the contract and method you're calling exist! " ++
      "failed to decode empty bytes. if you're using jsonrpc this is likely due to " ++
      "jsonrpc returning \x600x\x60 in case contract or method don't exist"
  | .malformed => "Invalid data"

def writeWord (n : Nat) : Bytes := BigEndian.write 32 n

def writeBlock (content : Bytes) : Bytes :=
  writeWord content.length ++ content ++ List.replicate ((32 - content.length % 32) % 32) 0

def block : Value → Bytes
  | .text text => writeBlock (Utf8.write text)
  | .bytes bytes => writeBlock bytes
  | .number _ => []
  | .account _ => []

def writeHead (place : Nat) : Value → Bytes
  | .number n => writeWord n
  | .account address => List.replicate 12 0 ++ address.bytes
  | .text _ => writeWord place
  | .bytes _ => writeWord place

def writeHeads : Nat → List Value → Bytes
  | _,[] => []
  | place,value :: rest => writeHead place value ++ writeHeads (place + (block value).length) rest

def writeTuple (values : List Value) : Bytes :=
  writeWord 32 ++ writeHeads (32 * values.length) values ++ values.flatMap block

def wordAt (data : Bytes) (place : Nat) : Option Bytes :=
  let word := (data.drop place).take 32
  if word.length = 32 then some word else none

def placeAt (data : Bytes) (place : Nat) : Option Nat := do
  let word ← wordAt data place
  if (word.take 28).all (· == 0) then some (BigEndian.read (word.drop 28)) else none

-- Padding is neither required nor looked at.
def blockAt (data : Bytes) (place : Nat) : Option Bytes := do
  let start ← placeAt data place
  let size ← placeAt data start
  let content := (data.drop (start + 32)).take size
  if content.length = size then some content else none

def readValue (data : Bytes) (place : Nat) : Kind → Option Value
  | .text => (blockAt data place).map fun content => .text (Utf8.readLenient content)
  | .bytes => (blockAt data place).map .bytes
  | .number => (wordAt data place).map fun word => .number (BigEndian.read word)
  | .account => do
    let word ← wordAt data place
    let address ← Address.ofBytes? (word.drop 12)
    return .account address

def readValues (data : Bytes) : Nat → List Kind → Option (List Value)
  | _,[] => some []
  | place,kind :: rest => do
    let value ← readValue data place kind
    let values ← readValues data (place + 32) rest
    return value :: values

def readTuple (kinds : List Kind) (data : Bytes) : Except Fault (List Value) :=
  if data.isEmpty then .error .empty
  else match (placeAt data 0).bind fun start => readValues (data.drop start) 0 kinds with
    | some values => .ok values
    | none => .error .malformed

end TokenTransfer.Abi
