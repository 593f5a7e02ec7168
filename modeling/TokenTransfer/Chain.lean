import TokenTransfer.Config
import TokenTransfer.Denomination
import TokenTransfer.Settlement
import TokenTransfer.Surroundings

namespace TokenTransfer

structure Chain where
  config : Config
  identity : Address
  surroundings : Surroundings
  ledger : Ledger
  escrows : EscrowRegistry
  channels : ChannelRegistry
  outbound : Outbound

structure SentPacket where
  packet : Packet
  event : TransferEvent
deriving DecidableEq

inductive Credit where
  | mint (target : Address) (denom : String) (amount : Amount)
  | release (channel : String) (escrow : Option Address) (target : Address) (denom : String) (amount : Amount)
deriving DecidableEq

namespace Chain

def new (config : Config) (identity owner : Address) (surroundings : Surroundings) : Chain :=
  ⟨config,identity,surroundings,.new owner,.new owner,.new owner,.new⟩

def restart (config : Config) (chain : Chain) : Chain := {chain with config,outbound := .new}

def onLedger {α : Type} (call : Call Ledger α) : Call Chain α :=
  call.within Chain.ledger fun chain ledger => {chain with ledger}

def onEscrows {α : Type} (call : Call EscrowRegistry α) : Call Chain α :=
  call.within Chain.escrows fun chain escrows => {chain with escrows}

def onChannels {α : Type} (call : Call ChannelRegistry α) : Call Chain α :=
  call.within Chain.channels fun chain channels => {chain with channels}

def escrowOf (chain : Chain) (channel : String) : Option Address :=
  chain.surroundings.escrow chain.escrows channel

def payload {α : Type} : Except PayloadError α → Except TransferError α :=
  Except.mapError .malformedPayload

def enabled (error : TransferError) (flag : Bool) : Except TransferError Unit :=
  if flag then .ok () else .error error

def fromTransport (chain : Chain) (caller : Address) : Except TransferError Unit :=
  Guard.authorized caller chain.config.transport .transport

def onBoundPort (chain : Chain) (port : String) : Except TransferError Unit :=
  match chain.surroundings.boundPort chain.channels with
  | none => .ok ()
  | some bound => if bound = port then .ok () else .error (.wrongPort bound port)

def payable (party : String) : Except PayloadError Address :=
  match Payload.accountOf party with
  | .error error => .error error
  | .ok address => if address = .zero then .error (.badAddress party) else .ok address

def shortfall (channel denom : String) (amount : Amount) : TransferError → TransferError
  | .balanceShort _ _ _ available => .escrowShort channel denom amount available
  | other => other

def pay : Credit → Call Chain TransferEvent
  | .mint target denom amount => do
    let chain ← get
    onLedger (Ledger.mint chain.identity target denom amount)
  | .release channel escrow target denom amount => do
    let chain ← get
    let escrow ← Call.need (.escrowShort channel denom amount .zero) escrow
    Call.check (Guard.covered channel denom (chain.surroundings.balance chain.ledger escrow denom) amount)
    Call.amend (shortfall channel denom amount)
      (onLedger (Ledger.transfer chain.identity escrow target denom amount))

-- What a received payload credits. Tokens that come home are released under
-- the name they came by, or without the returning hop where the chain is set so.
def creditOf (chain : Chain) (packet : Packet) (data : TransferData) (receiver : Address) : Credit :=
  match Denomination.direction packet.source data.denom with
  | .returning =>
    let denom :=
      if chain.config.releaseUnprefixed then (Denomination.unwrap? packet.source data.denom).getD data.denom
      else data.denom
    .release packet.destination.channel (chain.escrowOf packet.destination.channel) receiver denom data.amount
  | .forwarded => .mint receiver (Denomination.wrap packet.destination data.denom) data.amount

def receipt (chain : Chain) (caller : Address) (packet : Packet) : Except TransferError Credit := do
  chain.fromTransport caller
  enabled .receiveDisabled chain.config.receiveEnabled
  chain.onBoundPort packet.destination.port
  let data ← payload (Payload.decode chain.config.encoding packet.data)
  let receiver ← payload (payable data.receiver)
  return chain.creditOf packet data receiver

def receive (caller : Address) (packet : Packet) : Call Chain TransferEvent := do
  let credit ← Call.check ((← get).receipt caller packet)
  pay credit

def reconstruct (chain : Chain) (packet : Packet) : Except TransferError InFlight := do
  let data ← payload (Payload.decode chain.config.encoding packet.data)
  let sender ← payload (payable data.sender)
  if Denomination.leavesHome packet.source data.denom then
    match chain.escrowOf packet.source.channel with
    | some escrow => return ⟨sender,data.denom,data.amount,.escrowed escrow⟩
    | none => .error (.escrowShort packet.source.channel data.denom data.amount .zero)
  else return ⟨sender,data.denom,data.amount,.burned⟩

def charged (chain : Chain) (packet : Packet) : Except TransferError InFlight :=
  match chain.outbound.inFlight.find packet.id with
  | some entry => .ok entry
  | none => chain.reconstruct packet

def unsettled (chain : Chain) (packet : Packet) : Except TransferError Unit :=
  if chain.outbound.isSettled packet.source packet.sequence then
    .error (.alreadySettled packet.source packet.sequence)
  else .ok ()

def settle (packet : Packet) : Call Chain Unit :=
  modify fun chain => {chain with outbound := chain.outbound.settle packet}

def repayment (packet : Packet) (entry : InFlight) : Credit :=
  match entry.debit with
  | .escrowed escrow => .release packet.source.channel (some escrow) entry.sender entry.denom entry.amount
  | .burned => .mint entry.sender entry.denom entry.amount

def refund (packet : Packet) : Call Chain (TransferEvent × Debit) := do
  let chain ← get
  Call.check (chain.unsettled packet)
  let entry ← Call.check (chain.charged packet)
  let event ← pay (repayment packet entry)
  settle packet
  return (event,entry.debit)

def confirm (packet : Packet) : Call Chain Unit := do
  Call.check ((← get).unsettled packet)
  settle packet

def dispatch (chain : Chain) (caller : Address) (order : TransferOrder) :
    Except TransferError (Debit × ChannelEnd × Bytes) := do
  enabled .sendDisabled chain.config.sendEnabled
  chain.onBoundPort order.source.port
  let peer ← match chain.surroundings.peer chain.channels order.source with
    | some peer => .ok peer
    | none => .error (.channelNotFound order.source)
  payload (Payload.requirePositive order.amount)
  let debit ←
    if Denomination.leavesHome order.source order.denom then
      match chain.escrowOf order.source.channel with
      | some escrow => .ok (.escrowed escrow)
      | none => .error (.escrowNotConfigured order.source.channel)
    else .ok .burned
  let bytes ← payload (Payload.encode chain.config.encoding
    ⟨order.denom,order.amount,caller.text,order.receiver,order.memo⟩)
  return (debit,peer,bytes)

def charge (caller : Address) (denom : String) (amount : Amount) : Debit → Call Chain TransferEvent
  | .escrowed escrow => do
    let chain ← get
    onLedger (Ledger.transfer chain.identity caller escrow denom amount)
  | .burned => do
    let chain ← get
    onLedger (Ledger.burn chain.identity caller denom amount)

def send (caller : Address) (order : TransferOrder) : Call Chain SentPacket := do
  let chain ← get
  let (debit,peer,bytes) ← Call.check (chain.dispatch caller order)
  let event ← charge caller order.denom order.amount debit
  let packet : Packet :=
    ⟨chain.outbound.next order.source,order.source,peer,bytes,order.timeoutHeight,order.timeoutTimestamp⟩
  modify fun chain => {chain with
    outbound := chain.outbound.send packet ⟨caller,order.denom,order.amount,debit⟩}
  return ⟨packet,event⟩

end Chain
end TokenTransfer
