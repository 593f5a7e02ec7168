import TokenTransfer.Payload
import TokenTransfer.Telemetry.Settings
import TokenTransfer.Trace

namespace TokenTransfer.JsonForm
open Json (Value)

def writeAddress (address : Address) : Value := .ofBytes address.bytes

def readAddress (value : Value) : Option Address := value.bytes?.bind Address.ofBytes?

def hexDigits (n : Nat) : List Char := if n < 16 then [Hex.digit n] else hexDigits (n / 16) ++ [Hex.digit (n % 16)]
termination_by n

def writeAmount (amount : Amount) : Value := .ofText (String.ofList ('0' :: 'x' :: hexDigits amount.units))

def isBlank (c : Char) : Bool := c == ' ' || c == '\t' || c == '\n' || c == '\r'

def pairsOf : List Nat → List Nat
  | high :: low :: rest => (16*high + low) :: pairsOf rest
  | _ => []

-- At most 64 characters behind an optional 0x. Blanks among the digits are
-- passed over, but an odd length, blanks included, lets the first digit stand alone.
def readAmount (value : Value) : Option Amount := do
  let text ← value.text?
  let chars := match text.toList with
    | '0' :: 'x' :: rest => rest
    | all => all
  let length := (Utf8.write (String.ofList chars)).length
  let digits ← (chars.filter fun c => !isBlank c).mapM Hex.value?
  if length = 0 ∨ 64 < length then none
  else
    let paired := pairsOf (if length % 2 = 1 then 0 :: digits else digits)
    Amount.ofNat? (paired.foldl (fun n byte => 256*n + byte) 0)

def writeHeight (height : Height) : Value :=
  .ofFields [("revision_number",.ofWord height.revision),("revision_height",.ofWord height.block)]

def readHeight (value : Value) : Option Height := do
  match ← Json.record ["revision_number","revision_height"] value with
  | [revision,block] => return ⟨← revision.word?,← block.word?⟩
  | _ => none

def writePacket (packet : Packet) : Value :=
  .ofFields [("sequence",.ofWord packet.sequence),("source_port",.ofText packet.source.port),
    ("source_channel",.ofText packet.source.channel),("destination_port",.ofText packet.destination.port),
    ("destination_channel",.ofText packet.destination.channel),("data",.ofBytes packet.data),
    ("timeout_height",writeHeight packet.timeoutHeight),("timeout_timestamp",.ofWord packet.timeoutTimestamp)]

def readPacket (value : Value) : Option Packet := do
  match ← Json.record ["sequence","source_port","source_channel","destination_port","destination_channel",
    "data","timeout_height","timeout_timestamp"] value with
  | [sequence,sourcePort,sourceChannel,destinationPort,destinationChannel,data,height,timestamp] =>
    return ⟨← sequence.word?,⟨← sourcePort.text?,← sourceChannel.text?⟩,
      ⟨← destinationPort.text?,← destinationChannel.text?⟩,← data.bytes?,← readHeight height,← timestamp.word?⟩
  | _ => none

def writePacketId (id : PacketId) : Value :=
  .ofFields [("source_port",.ofText id.source.port),("source_channel",.ofText id.source.channel),
    ("destination_port",.ofText id.destination.port),("destination_channel",.ofText id.destination.channel),
    ("sequence",.ofWord id.sequence)]

def readPacketId (value : Value) : Option PacketId := do
  match ← Json.record ["source_port","source_channel","destination_port","destination_channel","sequence"] value with
  | [sourcePort,sourceChannel,destinationPort,destinationChannel,sequence] =>
    return ⟨⟨← sourcePort.text?,← sourceChannel.text?⟩,
      ⟨← destinationPort.text?,← destinationChannel.text?⟩,← sequence.word?⟩
  | _ => none

def writeData (data : TransferData) : Value :=
  .ofFields [("denom",.ofText data.denom),("amount",writeAmount data.amount),("sender",.ofText data.sender),
    ("receiver",.ofText data.receiver),("memo",.ofText data.memo)]

def readData (value : Value) : Option TransferData := do
  match ← Json.record ["denom","amount","sender","receiver","memo"] value with
  | [denom,amount,sender,receiver,memo] =>
    return ⟨← denom.text?,← readAmount amount,← sender.text?,← receiver.text?,← memo.text?⟩
  | _ => none

def writeEvent (event : TransferEvent) : Value :=
  .ofFields [("from",writeAddress event.source),("to",writeAddress event.target),("denom",.ofText event.denom),
    ("amount",writeAmount event.amount)]

def readEvent (value : Value) : Option TransferEvent := do
  match ← Json.record ["from","to","denom","amount"] value with
  | [source,target,denom,amount] =>
    return ⟨← readAddress source,← readAddress target,← denom.text?,← readAmount amount⟩
  | _ => none

def writeOrder (order : TransferOrder) : Value :=
  .ofFields [("source_port",.ofText order.source.port),("source_channel",.ofText order.source.channel),
    ("denom",.ofText order.denom),("amount",writeAmount order.amount),("receiver",.ofText order.receiver),
    ("memo",.ofText order.memo),("timeout_height",writeHeight order.timeoutHeight),
    ("timeout_timestamp",.ofWord order.timeoutTimestamp)]

def readOrder (value : Value) : Option TransferOrder := do
  match ← Json.record ["source_port","source_channel","denom","amount","receiver","memo","timeout_height",
    "timeout_timestamp"] value with
  | [port,channel,denom,amount,receiver,memo,height,timestamp] =>
    return ⟨⟨← port.text?,← channel.text?⟩,← denom.text?,← readAmount amount,← receiver.text?,← memo.text?,
      ← readHeight height,← timestamp.word?⟩
  | _ => none

def writeDebit : Debit → Value
  | .escrowed escrow => .ofFields [("Escrowed",.ofFields [("escrow",writeAddress escrow)])]
  | .burned => .ofText "Burned"

def readDebit (value : Value) : Option Debit := do
  match ← Json.variant value with
  | ("Burned",none) => return .burned
  | ("Burned",some .null) => return .burned
  | ("Escrowed",some inner) =>
    match ← Json.record ["escrow"] inner with
    | [escrow] => return .escrowed (← readAddress escrow)
    | _ => none
  | _ => none

def writeInFlight (entry : InFlight) : Value :=
  .ofFields [("sender",writeAddress entry.sender),("denom",.ofText entry.denom),
    ("amount",writeAmount entry.amount),("debit",writeDebit entry.debit)]

def readInFlight (value : Value) : Option InFlight := do
  match ← Json.record ["sender","denom","amount","debit"] value with
  | [sender,denom,amount,debit] =>
    return ⟨← readAddress sender,← denom.text?,← readAmount amount,← readDebit debit⟩
  | _ => none

def writeHop (place : ChannelEnd) : Value :=
  .ofFields [("port_id",.ofText place.port),("channel_id",.ofText place.channel)]

def readHop (value : Value) : Option ChannelEnd := do
  match ← Json.record ["port_id","channel_id"] value with
  | [port,channel] => return ⟨← port.text?,← channel.text?⟩
  | _ => none

def writeTrace (trace : Trace) : Value :=
  .ofFields [("trace_path",.array (trace.hops.map writeHop)),("base_denom",.ofText trace.base)]

def readTrace (value : Value) : Option Trace := do
  match ← Json.record ["trace_path","base_denom"] value with
  | [.array hops,base] => return ⟨← hops.mapM readHop,← base.text?⟩
  | _ => none

def writeEncoding (encoding : PayloadEncoding) : Value := .ofText encoding.text

def readEncoding (value : Value) : Option PayloadEncoding := do
  match ← Json.variant value with
  | (name,none) => PayloadEncoding.read? name
  | (name,some .null) => PayloadEncoding.read? name
  | _ => none

def writeSettings (settings : TelemetrySettings) : Value :=
  .ofFields [("service_name",.ofText settings.serviceName),("log_level",.ofText settings.logLevel),
    ("console_output",.bool settings.consoleOutput),("json_logs",.bool settings.jsonLogs)]

def readSettings (value : Value) : Option TelemetrySettings := do
  match ← Json.record ["service_name","log_level","console_output","json_logs"] value with
  | [service,level,console,logs] => return ⟨← service.text?,← level.text?,← console.bool?,← logs.bool?⟩
  | _ => none

def normalize {α : Type} (read : Value → Option α) (write : α → Value) (bytes : Bytes) : Option Bytes :=
  ((Json.read bytes).bind read).map fun value => Json.write (write value)

end TokenTransfer.JsonForm
