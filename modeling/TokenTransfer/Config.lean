import TokenTransfer.Payload
import TokenTransfer.Toml.Document

namespace TokenTransfer

structure Config where
  transport : Address
  receiveEnabled : Bool
  sendEnabled : Bool
  encoding : PayloadEncoding
  releaseUnprefixed : Bool
deriving DecidableEq

inductive ConfigError where
  | unreadable
  | malformed
  | badAddress (field value : String)
deriving DecidableEq

namespace Config

def new (transport : Address) : Config := ⟨transport,true,true,default,false⟩

def settingNames : List String :=
  ["transport","receive_enabled","send_enabled","payload_encoding","release_unprefixed"]

def settings : Toml.Item → Option (List (Option Toml.Item))
  | .table _ entries => some (settingNames.map fun name => Table.lookup name entries)
  | .inline _ entries => some (settingNames.map fun name => Table.lookup name entries)
  | .array items =>
    if settingNames.length ≤ items.length then some ((items.take settingNames.length).map some) else none
  | _ => none

def flag (preset : Bool) : Option Toml.Item → Option Bool
  | none => some preset
  | some (.bool truth) => some truth
  | some _ => none

def holdsNothing : Toml.Item → Bool
  | .array items => items.isEmpty
  | .inline _ entries => entries.isEmpty
  | .table _ entries => entries.isEmpty
  | _ => false

-- An encoding is its name, or a table with the name as its only key over nothing.
def encodingOf : Toml.Item → Option PayloadEncoding
  | .text name => PayloadEncoding.read? name
  | .inline _ [(name,item)] => if holdsNothing item then PayloadEncoding.read? name else none
  | .table _ [(name,item)] => if holdsNothing item then PayloadEncoding.read? name else none
  | _ => none

def encodingSetting : Option Toml.Item → Option PayloadEncoding
  | none => some default
  | some item => encodingOf item

-- The principal is still text here: it is looked at when all else is in order.
def ofSettings : List (Option Toml.Item) → Option (String × Bool × Bool × PayloadEncoding × Bool)
  | [some (.text transport),receive,send,encoding,release] => do
    return (transport,← flag true receive,← flag true send,← encodingSetting encoding,← flag false release)
  | _ => none

def read (text : String) : Except ConfigError Config :=
  match (do ofSettings (← settings (← Table.lookup "transfer" (← Toml.read text)))) with
  | none => .error .malformed
  | some (transport,receive,send,encoding,release) =>
    match Address.read? transport with
    | none => .error (.badAddress "transport" transport)
    | some address => .ok ⟨address,receive,send,encoding,release⟩

def load (content : Option Bytes) : Except ConfigError Config :=
  match content.bind Utf8.read with
  | none => .error .unreadable
  | some text => read text

end Config

def ConfigError.message : ConfigError → String
  | .unreadable => "Failed to read config file"
  | .malformed => "Failed to parse config"
  | .badAddress field value => "Invalid address for '" ++ field ++ "': " ++ value

end TokenTransfer
