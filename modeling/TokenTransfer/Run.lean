import TokenTransfer.Host

namespace TokenTransfer

inductive Part where
  | ledger
  | escrows
  | channels
deriving DecidableEq

inductive Request where
  | setOperator (caller operator : Address)
  | mint (caller target : Address) (denom : String) (amount : Amount)
  | burn (caller source : Address) (denom : String) (amount : Amount)
  | transfer (caller source target : Address) (denom : String) (amount : Amount)
  | handOver (part : Part) (caller newOwner : Address)
  | setEscrow (caller : Address) (channel : String) (account : Address)
  | setDerivedEscrow (caller : Address) (place : ChannelEnd)
  | bindPort (caller : Address) (port : String)
  | openChannel (caller : Address) (place peer : ChannelEnd)
  | send (caller : Address) (order : TransferOrder)
  | receive (caller : Address) (packet : Packet)
  | acknowledge (caller : Address) (packet : Packet) (bytes : Bytes)
  | timeout (caller : Address) (packet : Packet)
  | restart (config : Config)
deriving DecidableEq

inductive Reply where
  | done
  | moved (event : TransferEvent)
  | named (account : Address)
  | sent (sent : SentPacket)
  | settled
deriving DecidableEq

namespace Request

def ofRefund : Option TransferEvent → Reply
  | some event => .moved event
  | none => .settled

def onLedger (call : Call Ledger TransferEvent) : Call Host Reply :=
  .moved <$> Host.onChain (Chain.onLedger call)

def perform : Request → Call Host Reply
  | .setOperator caller operator => do
    Host.onChain (Chain.onLedger (Ledger.setOperator caller operator))
    return .done
  | .mint caller target denom amount => onLedger (Ledger.mint caller target denom amount)
  | .burn caller source denom amount => onLedger (Ledger.burn caller source denom amount)
  | .transfer caller source target denom amount => onLedger (Ledger.transfer caller source target denom amount)
  | .handOver part caller newOwner => do
    Host.onChain (match part with
      | .ledger => Chain.onLedger (Ledger.handOver caller newOwner)
      | .escrows => Chain.onEscrows (EscrowRegistry.handOver caller newOwner)
      | .channels => Chain.onChannels (ChannelRegistry.handOver caller newOwner))
    return .done
  | .setEscrow caller channel account => do
    Host.onChain (Chain.onEscrows (EscrowRegistry.set caller channel account))
    return .done
  | .setDerivedEscrow caller place =>
    .named <$> Host.onChain (Chain.onEscrows (EscrowRegistry.setDerived caller place))
  | .bindPort caller port => do
    Host.onChain (Chain.onChannels (ChannelRegistry.bindPort caller port))
    return .done
  | .openChannel caller place peer => do
    Host.onChain (Chain.onChannels (ChannelRegistry.openChannel caller place peer))
    return .done
  | .send caller order => .sent <$> Host.send caller order
  | .receive caller packet => .moved <$> Host.receive caller packet
  | .acknowledge caller packet bytes => ofRefund <$> Host.acknowledge caller packet bytes
  | .timeout caller packet => .moved <$> Host.timeout caller packet
  | .restart config => do
    modify fun host => {host with chain := host.chain.restart config}
    return .done

end Request

namespace Host

def step (host : Host) (request : Request) : Except TransferError Reply × Host :=
  match request.perform host with
  | .ok reply next => (.ok reply,next)
  | .error error next => (.error error,next)

-- Refused requests do not end a run.
def run : Host → List Request → List (Except TransferError Reply) × Host
  | host,[] => ([],host)
  | host,request :: rest =>
    let (answer,next) := host.step request
    let (answers,last) := run next rest
    (answer :: answers,last)

end Host
end TokenTransfer
