import TokenTransfer.Error
import TokenTransfer.Json.Record

namespace TokenTransfer

inductive Acknowledgement where
  | success (bytes : Bytes)
  | failure (reason : String)
deriving DecidableEq

namespace Acknowledgement

def standard : Acknowledgement := .success (Json.write (.ofFields [("result",.ofText "AQ==")]))

def ofError (error : TransferError) : Acknowledgement :=
  .failure ("error handling packet on destination chain: see events for details: " ++ error.message)

def ofOutcome {α : Type} : Except TransferError α → Acknowledgement
  | .ok _ => standard
  | .error error => ofError error

-- The two forms of success that are no object: a single one byte, and its base64.
def bareSuccess (bytes : Bytes) : Bool := bytes == [1] || bytes == [65,81,61,61]

def ofJson? (bytes : Bytes) : Option Acknowledgement := do
  let value ← Json.read bytes
  match value with
  | .object [(key,.string body)] => do
    let name ← Json.textOf key
    let text ← Json.textOf body
    if name = "result" then some (.success bytes)
    else if name = "error" then some (.failure text)
    else none
  | _ => none

def read (bytes : Bytes) : Acknowledgement :=
  match ofJson? bytes with
  | some acknowledgement => acknowledgement
  | none => if bareSuccess bytes then .success bytes else .failure (Utf8.readLenient bytes)

def write : Acknowledgement → Bytes
  | .success bytes => bytes
  | .failure reason => Json.write (.ofFields [("error",.ofText reason)])

def isSuccess : Acknowledgement → Bool
  | .success _ => true
  | .failure _ => false

end Acknowledgement
end TokenTransfer
