import TokenTransfer.Acknowledgement
import TokenTransfer.Chain
import TokenTransfer.Telemetry.Counters

namespace TokenTransfer

structure Host where
  chain : Chain
  counters : Counters

namespace Host

def onChain {α : Type} (call : Call Chain α) : Call Host α :=
  call.within Host.chain fun host chain => {host with chain}

def count (series : Series) : Call Host Unit :=
  modify fun host => {host with counters := host.counters.bump series}

def observed {α : Type} (entry : EntryPoint) (success : α → List Series) (failure : TransferError → List Series)
    (call : Call Host α) : Call Host α := fun host =>
  let marked (host : Host) (series : List Series) : Host :=
    {host with counters := (series ++ [Series.called entry]).foldl Counters.bump host.counters}
  match call host with
  | .ok value next => .ok value (marked next (success value))
  | .error error next => .error error (marked next (failure error))

def failures (error : TransferError) : List Series := [.failed error.kind]

def receptionOf (event : TransferEvent) : Reception := if event.isMint then .minted else .released
def chargeOf (event : TransferEvent) : Charge := if event.isBurn then .burn else .escrow

def mechanismOf : Debit → Mechanism
  | .escrowed _ => .release
  | .burned => .mint

def receive (caller : Address) (packet : Packet) : Call Host TransferEvent :=
  observed .receive (fun event => [.received (receptionOf event)])
    (fun error => .received .refused :: failures error)
    (onChain (Chain.receive caller packet))

def refund (trigger : Trigger) (packet : Packet) : Call Host TransferEvent := do
  let (event,debit) ← onChain (Chain.refund packet)
  count (.refunded trigger (mechanismOf debit))
  return event

-- The outcome of a packet of this chain comes back: a success settles it, any
-- other outcome refunds it. Answers the refund.
def acknowledge (caller : Address) (packet : Packet) (bytes : Bytes) : Call Host (Option TransferEvent) :=
  observed .acknowledge (fun _ => []) failures do
    Call.check ((← get).chain.fromTransport caller)
    match Acknowledgement.read bytes with
    | .success _ => do
      onChain (Chain.confirm packet)
      count (.acknowledged true)
      return none
    | .failure _ => do
      count (.acknowledged false)
      let event ← refund .acknowledgement packet
      return some event

def timeout (caller : Address) (packet : Packet) : Call Host TransferEvent :=
  observed .timeout (fun _ => []) failures do
    Call.check ((← get).chain.fromTransport caller)
    refund .timeout packet

def send (caller : Address) (order : TransferOrder) : Call Host SentPacket :=
  observed .send (fun sent => [.sent (chargeOf sent.event)]) failures (onChain (Chain.send caller order))

end Host
end TokenTransfer
