import TokenTransfer.Proofs.HostRules
import TokenTransfer.Run

namespace TokenTransfer
open Call

-- Every check of a call stands before its one write, so a refused call leaves
-- everything as it was.
namespace Ledger

theorem handOver_traceless (caller newOwner : Address) : Traceless id (handOver caller newOwner) :=
  keeps_get.then fun _ => (keeps_check _).then fun _ => traceless_modify _

theorem setOperator_traceless (caller operator : Address) : Traceless id (setOperator caller operator) :=
  keeps_get.then fun _ => (keeps_check _).then fun _ => traceless_modify _

theorem record_succeeds (event : TransferEvent) : Succeeds (record event) :=
  (succeeds_modify _).bind fun _ => succeeds_pure event

theorem mint_traceless (caller target : Address) (denom : String) (amount : Amount) :
    Traceless id (mint caller target denom amount) :=
  keeps_get.then fun _ => (keeps_check _).then fun _ => (keeps_check _).then fun _ =>
    (traceless_modify _).then fun _ => record_succeeds _

theorem burn_traceless (caller source : Address) (denom : String) (amount : Amount) :
    Traceless id (burn caller source denom amount) :=
  keeps_get.then fun _ => (keeps_check _).then fun _ => (keeps_check _).then fun _ =>
    (traceless_modify _).then fun _ => record_succeeds _

theorem transfer_traceless (caller source target : Address) (denom : String) (amount : Amount) :
    Traceless id (transfer caller source target denom amount) := by
  refine keeps_get.then fun ledger => (keeps_check _).then fun _ => (keeps_check _).then fun left => ?_
  dsimp only
  split
  · apply (keeps_check _).then
    intro sum
    exact (traceless_modify _).then fun _ => (succeeds_modify _).bind fun _ => record_succeeds _
  · exact (record_succeeds _).traceless

end Ledger

namespace EscrowRegistry

theorem handOver_traceless (caller newOwner : Address) : Traceless id (handOver caller newOwner) :=
  keeps_get.then fun _ => (keeps_check _).then fun _ => traceless_modify _

theorem set_traceless (caller : Address) (channel : String) (account : Address) :
    Traceless id (set caller channel account) :=
  keeps_get.then fun _ => (keeps_check _).then fun _ => traceless_modify _

theorem setDerived_traceless (caller : Address) (place : ChannelEnd) : Traceless id (setDerived caller place) :=
  (set_traceless caller place.channel _).then fun _ => succeeds_pure _

end EscrowRegistry

namespace ChannelRegistry

theorem handOver_traceless (caller newOwner : Address) : Traceless id (handOver caller newOwner) :=
  keeps_get.then fun _ => (keeps_check _).then fun _ => traceless_modify _

theorem bindPort_traceless (caller : Address) (port : String) : Traceless id (bindPort caller port) :=
  keeps_get.then fun _ => (keeps_check _).then fun _ => traceless_modify _

theorem openChannel_traceless (caller : Address) (place peer : ChannelEnd) :
    Traceless id (openChannel caller place peer) :=
  keeps_get.then fun _ => (keeps_check _).then fun _ => traceless_modify _

end ChannelRegistry

namespace Chain

theorem pay_traceless (credit : Credit) : Traceless id (pay credit) := by
  cases credit with
  | mint target denom amount =>
    exact keeps_get.then fun chain => (Ledger.mint_traceless _ _ _ _).within fun _ => rfl
  | release channel escrow target denom amount =>
    refine keeps_get.then fun chain => (keeps_need _ _).then fun account => (keeps_check _).then fun _ => ?_
    exact ((Ledger.transfer_traceless _ _ _ _ _).within fun _ => rfl).amend _

theorem receive_traceless (caller : Address) (packet : Packet) : Traceless id (receive caller packet) :=
  keeps_get.then fun _ => (keeps_check _).then fun credit => pay_traceless credit

-- What a refund pays is its last step that can fail; settling is behind it.
theorem refund_traceless (packet : Packet) : Traceless id (refund packet) := by
  refine keeps_get.then fun chain => (keeps_check _).then fun _ => (keeps_check _).then fun entry => ?_
  exact (pay_traceless _).then fun _ => (succeeds_modify _).bind fun _ => succeeds_pure _

theorem confirm_traceless (packet : Packet) : Traceless id (confirm packet) :=
  keeps_get.then fun _ => (keeps_check _).then fun _ => traceless_modify _

theorem charge_traceless (caller : Address) (denom : String) (amount : Amount) (debit : Debit) :
    Traceless id (charge caller denom amount debit) := by
  cases debit with
  | escrowed escrow => exact keeps_get.then fun _ => (Ledger.transfer_traceless _ _ _ _ _).within fun _ => rfl
  | burned => exact keeps_get.then fun _ => (Ledger.burn_traceless _ _ _ _).within fun _ => rfl

theorem send_traceless (caller : Address) (order : TransferOrder) : Traceless id (send caller order) := by
  refine keeps_get.then fun chain => (keeps_check _).then fun ⟨debit,peer,bytes⟩ => ?_
  exact (charge_traceless _ _ _ _).then fun _ => (succeeds_modify _).bind fun _ => succeeds_pure _

end Chain

namespace Host
variable {α : Type}

theorem onChain_traceless {call : Call Chain α} (traceless : Traceless id call) :
    Traceless Host.chain (onChain call) :=
  (traceless.within fun _ => rfl).viewed

theorem observed_traceless {entry : EntryPoint} {success : α → List Series}
    {failure : TransferError → List Series} {call : Call Host α} (traceless : Traceless Host.chain call) :
    Traceless Host.chain (observed entry success failure call) := by
  intro host error next failed
  unfold observed at failed
  split at failed
  · cases failed
  · rename_i reason middle ran
    cases failed
    exact traceless host error middle ran

-- Counters move while a call is still running; the chain does not see them.
theorem count_keeps (series : Series) : Keeps Host.chain (count series) := keeps_modify fun _ => rfl

theorem refund_traceless (trigger : Trigger) (packet : Packet) : Traceless Host.chain (refund trigger packet) :=
  (onChain_traceless (Chain.refund_traceless packet)).then fun _ =>
    (succeeds_modify _).bind fun _ => succeeds_pure _

theorem acknowledge_traceless (caller : Address) (packet : Packet) (bytes : Bytes) :
    Traceless Host.chain (acknowledge caller packet bytes) := by
  refine observed_traceless (keeps_get.then fun host => (keeps_check _).then fun _ => ?_)
  cases Acknowledgement.read bytes with
  | success proof =>
    apply (onChain_traceless (Chain.confirm_traceless packet)).then
    intro _
    exact (succeeds_modify _).bind fun _ => succeeds_pure _
  | failure reason =>
    apply (count_keeps _).then
    intro _
    exact (refund_traceless .acknowledgement packet).then fun _ => succeeds_pure _

theorem timeout_traceless (caller : Address) (packet : Packet) : Traceless Host.chain (timeout caller packet) :=
  observed_traceless (keeps_get.then fun _ => (keeps_check _).then fun _ => refund_traceless .timeout packet)

end Host

namespace Request

theorem perform_traceless (request : Request) : Traceless Host.chain request.perform := by
  have onLedger : ∀ {α : Type} {call : Call Ledger α}, Traceless id call →
      Traceless Host.chain (Host.onChain (Chain.onLedger call)) :=
    fun traceless => Host.onChain_traceless (traceless.within fun _ => rfl)
  have onEscrows : ∀ {α : Type} {call : Call EscrowRegistry α}, Traceless id call →
      Traceless Host.chain (Host.onChain (Chain.onEscrows call)) :=
    fun traceless => Host.onChain_traceless (traceless.within fun _ => rfl)
  have onChannels : ∀ {α : Type} {call : Call ChannelRegistry α}, Traceless id call →
      Traceless Host.chain (Host.onChain (Chain.onChannels call)) :=
    fun traceless => Host.onChain_traceless (traceless.within fun _ => rfl)
  cases request with
  | setOperator => exact (onLedger (Ledger.setOperator_traceless _ _)).then fun _ => succeeds_pure _
  | mint => exact (onLedger (Ledger.mint_traceless _ _ _ _)).map _
  | burn => exact (onLedger (Ledger.burn_traceless _ _ _ _)).map _
  | transfer => exact (onLedger (Ledger.transfer_traceless _ _ _ _ _)).map _
  | handOver part =>
    cases part with
    | ledger => exact (onLedger (Ledger.handOver_traceless _ _)).then fun _ => succeeds_pure _
    | escrows => exact (onEscrows (EscrowRegistry.handOver_traceless _ _)).then fun _ => succeeds_pure _
    | channels => exact (onChannels (ChannelRegistry.handOver_traceless _ _)).then fun _ => succeeds_pure _
  | setEscrow => exact (onEscrows (EscrowRegistry.set_traceless _ _ _)).then fun _ => succeeds_pure _
  | setDerivedEscrow => exact (onEscrows (EscrowRegistry.setDerived_traceless _ _)).map _
  | bindPort => exact (onChannels (ChannelRegistry.bindPort_traceless _ _)).then fun _ => succeeds_pure _
  | openChannel => exact (onChannels (ChannelRegistry.openChannel_traceless _ _ _)).then fun _ => succeeds_pure _
  | send => exact (Host.observed_traceless (Host.onChain_traceless (Chain.send_traceless _ _))).map _
  | receive => exact (Host.observed_traceless (Host.onChain_traceless (Chain.receive_traceless _ _))).map _
  | acknowledge => exact (Host.acknowledge_traceless _ _ _).map _
  | timeout => exact (Host.timeout_traceless _ _).map _
  | restart => exact (traceless_modify _).then fun _ => succeeds_pure _

def movements : Request → Nat
  | .mint .. | .burn .. | .transfer .. | .send .. | .receive .. | .timeout .. => 1
  | .acknowledge _ _ bytes => if (Acknowledgement.read bytes).isSuccess then 0 else 1
  | _ => 0

end Request

def Reply.entries : Reply → List TransferEvent
  | .moved event => [event]
  | .sent answer => [answer.event]
  | _ => []

namespace Request
variable {host next : Host} {reply : Reply} {request : Request}

def eventsOf (host : Host) : List TransferEvent := host.chain.ledger.events

def Logged (request : Request) (host : Host) (reply : Reply) (next : Host) : Prop :=
  eventsOf next = eventsOf host ++ reply.entries ∧ reply.entries.length = request.movements

theorem moved_logged {call : Call Host TransferEvent} (one : request.movements = 1)
    (entered : ∀ event, call host = .ok event next → eventsOf next = eventsOf host ++ [event])
    (answered : (Reply.moved <$> call) host = .ok reply next) : Logged request host reply next := by
  rw [map_eq_pure_bind] at answered
  obtain ⟨event,middle,ran,told⟩ := Call.bind_ok.mp answered
  cases told
  exact ⟨entered event ran,one.symm⟩

theorem administered_logged {α : Type} {call : Call Host α} (told : α → Reply) (none : request.movements = 0)
    (silent : ∀ value, (told value).entries = []) (keeps : Keeps eventsOf call)
    (answered : (call >>= fun value => pure (told value)) host = .ok reply next) :
    Logged request host reply next := by
  obtain ⟨value,middle,ran,same⟩ := Call.bind_ok.mp answered
  cases same
  refine ⟨?_,?_⟩
  · rw [silent,List.append_nil]
    exact keeps.ok ran
  · rw [silent,none]
    rfl

theorem onLedger_keeps {α ν : Type} (seen : Ledger → ν) {call : Call Ledger α} (keeps : Keeps seen call) :
    Keeps (fun host => seen host.chain.ledger) (Host.onChain (Chain.onLedger call)) := by
  have onChain : Keeps (fun chain => seen chain.ledger) (Chain.onLedger call) :=
    keeps.within (fun _ _ => rfl) fun _ => rfl
  exact Host.onChain_keeps onChain

theorem part_keeps {α ν τ : Type} (view : Chain → ν) {part : Chain → τ} {store : Chain → τ → Chain} {call : Call τ α}
    (apart : ∀ chain inner, view (store chain inner) = view chain) :
    Keeps (fun host => view host.chain) (Host.onChain (within part store call)) :=
  Host.onChain_keeps (keeps_within call apart)

theorem owned_keeps {σ ν : Type} {view : σ → ν} (check : σ → Except TransferError Unit) {change : σ → σ}
    (kept : ∀ state, view (change state) = view state) :
    Keeps view (get >>= fun state => Call.check (check state) >>= fun _ => modify change) :=
  keeps_get.bind fun _ => (keeps_check _).bind fun _ => keeps_modify kept

theorem ledgerCall_logged {call : Call Ledger TransferEvent} (one : request.movements = 1)
    (entered : ∀ ledger event after, call ledger = .ok event after → after.events = ledger.events ++ [event])
    (answered : onLedger call host = .ok reply next) : Logged request host reply next := by
  refine moved_logged one ?_ answered
  intro event ran
  obtain ⟨chain,onChain,rfl⟩ := Host.onChain_ok.mp ran
  obtain ⟨ledger,moved,rfl⟩ := Call.within_ok.mp onChain
  exact entered _ _ _ moved

theorem receive_events {caller : Address} {packet : Packet} {event : TransferEvent}
    (received : Host.receive caller packet host = .ok event next) : eventsOf next = eventsOf host ++ [event] := by
  obtain ⟨credit,_,paid⟩ := Chain.receive_exact.mp (Host.receive_ok received)
  obtain ⟨ledger,same,entered⟩ := Chain.pay_parts paid
  unfold eventsOf
  rw [same]
  exact entered

theorem refund_events {packet : Packet} {event : TransferEvent} {debit : Debit}
    (refunded : Chain.refund packet host.chain = .ok (event,debit) next.chain) :
    eventsOf next = eventsOf host ++ [event] := by
  obtain ⟨_,entry,middle,_,paid,_,settled⟩ := Chain.refund_exact.mp refunded
  obtain ⟨ledger,same,entered⟩ := Chain.pay_parts paid
  unfold eventsOf
  rw [settled,same]
  exact entered

theorem send_events {caller : Address} {order : TransferOrder} {sent : SentPacket}
    (departed : Host.send caller order host = .ok sent next) : eventsOf next = eventsOf host ++ [sent.event] := by
  obtain ⟨peer,bytes,debit,ledger,_,moved,_,booked⟩ := Chain.send_exact.mp (Host.send_ok departed)
  unfold eventsOf
  rw [booked]
  exact Chain.chargeOn_events moved

theorem acknowledge_logged {caller : Address} {packet : Packet} {bytes : Bytes}
    (answered : (ofRefund <$> Host.acknowledge caller packet bytes) host = .ok reply next) :
    Logged (.acknowledge caller packet bytes) host reply next := by
  rw [map_eq_pure_bind] at answered
  obtain ⟨answer,middle,ran,told⟩ := Call.bind_ok.mp answered
  cases told
  obtain ⟨_,settled⟩ := Host.acknowledge_ok ran
  cases answer with
  | none =>
    obtain ⟨success,confirmed⟩ := settled
    obtain ⟨_,same⟩ := Chain.confirm_exact.mp confirmed
    refine ⟨?_,by simp [ofRefund,Reply.entries,movements,success]⟩
    unfold eventsOf
    rw [same]
    exact (List.append_nil _).symm
  | some event =>
    obtain ⟨failure,debit,refunded⟩ := settled
    exact ⟨refund_events refunded,by simp [ofRefund,Reply.entries,movements,failure]⟩

theorem perform_logged (answered : request.perform host = .ok reply next) : Logged request host reply next := by
  have done : ∀ {call : Call Host Unit}, request.movements = 0 → Keeps eventsOf call →
      (call >>= fun _ => pure Reply.done) host = .ok reply next → Logged request host reply next :=
    fun none keeps => administered_logged (fun _ => .done) none (fun _ => rfl) keeps
  have apart : ∀ {α τ : Type} {part : Chain → τ} {store : Chain → τ → Chain} {call : Call τ α},
      (∀ chain inner, (store chain inner).ledger.events = chain.ledger.events) →
        Keeps eventsOf (Host.onChain (within part store call)) :=
    part_keeps fun chain => chain.ledger.events
  cases request with
  | setOperator =>
    refine done rfl ?_ answered
    exact onLedger_keeps Ledger.events (owned_keeps _ fun _ => rfl)
  | mint => exact ledgerCall_logged rfl (fun _ _ _ => Ledger.mint_events) answered
  | burn => exact ledgerCall_logged rfl (fun _ _ _ => Ledger.burn_events) answered
  | transfer => exact ledgerCall_logged rfl (fun _ _ _ => Ledger.transfer_events) answered
  | handOver part =>
    refine done rfl ?_ answered
    cases part with
    | ledger => exact onLedger_keeps Ledger.events (owned_keeps _ fun _ => rfl)
    | escrows => exact apart fun _ _ => rfl
    | channels => exact apart fun _ _ => rfl
  | setEscrow | bindPort | openChannel =>
    refine done rfl ?_ answered
    exact apart fun _ _ => rfl
  | setDerivedEscrow =>
    simp only [perform,map_eq_pure_bind] at answered
    refine administered_logged .named rfl (fun _ => rfl) ?_ answered
    exact apart fun _ _ => rfl
  | send =>
    simp only [perform,map_eq_pure_bind] at answered
    obtain ⟨sent,middle,ran,told⟩ := Call.bind_ok.mp answered
    cases told
    exact ⟨send_events ran,rfl⟩
  | receive => exact moved_logged rfl (fun _ => receive_events) answered
  | acknowledge => exact acknowledge_logged answered
  | timeout =>
    refine moved_logged rfl (fun event ran => ?_) answered
    obtain ⟨_,debit,refunded⟩ := Host.timeout_ok ran
    exact refund_events refunded
  | restart =>
    refine done rfl ?_ answered
    exact keeps_modify fun _ => rfl

theorem step_atomic (host : Host) (request : Request) :
    match host.step request with
    | (.error _,next) => next.chain = host.chain
    | (.ok reply,next) =>
      next.chain.ledger.events = host.chain.ledger.events ++ reply.entries ∧
        reply.entries.length = request.movements := by
  unfold Host.step
  cases ran : request.perform host with
  | ok reply next => exact perform_logged ran
  | error error next => exact perform_traceless request host error next ran

end Request
end TokenTransfer
