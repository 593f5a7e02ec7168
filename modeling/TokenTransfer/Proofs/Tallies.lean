import TokenTransfer.Proofs.Agreement
import TokenTransfer.Proofs.Outcomes

namespace TokenTransfer

def Credit.reception : Credit → Reception
  | .mint .. => .minted
  | .release .. => .released

def Credit.mechanism : Credit → Mechanism
  | .mint .. => .mint
  | .release .. => .release

def Debit.label : Debit → Charge
  | .escrowed _ => .escrow
  | .burned => .burn

def Request.entry? : Request → Option EntryPoint
  | .send .. => some .send
  | .receive .. => some .receive
  | .acknowledge .. => some .acknowledge
  | .timeout .. => some .timeout
  | _ => none

structure Visit where
  before : Chain
  request : Request
  answer : Except TransferError Reply
  after : Chain

namespace Visit

-- How a call ended, by the decision that was taken in it and not by the movement that it
-- answers: the credit that a packet came to, the charge on record for a packet that left,
-- and the credit by which that is given back.
def reception? (visit : Visit) : Option Reception :=
  match visit.request,visit.answer with
  | .receive caller packet,.ok _ => (visit.before.receipt caller packet).toOption.map Credit.reception
  | .receive _ _,.error _ => some .refused
  | _,_ => none

def charge? (visit : Visit) : Option Charge :=
  match visit.request,visit.answer with
  | .send _ _,.ok (.sent sent) => (visit.after.outbound.inFlight.find sent.packet.id).map fun entry => entry.debit.label
  | _,_ => none

def mechanism? (visit : Visit) (packet : Packet) : Option Mechanism :=
  (visit.before.charged packet).toOption.map fun entry => (Chain.repayment packet entry).mechanism

def repaid? (visit : Visit) : Option (Trigger × Mechanism) :=
  match visit.request,visit.answer with
  | .acknowledge _ packet _,.ok (.moved _) => (visit.mechanism? packet).map (Prod.mk .acknowledgement)
  | .timeout _ packet,.ok _ => (visit.mechanism? packet).map (Prod.mk .timeout)
  | _,_ => none

def confirmed (visit : Visit) : Bool :=
  match visit.request,visit.answer with
  | .acknowledge _ _ _,.ok .settled => true
  | _,_ => false

def failing (visit : Visit) : Bool :=
  match visit.request with
  | .acknowledge caller _ bytes => caller == visit.before.config.transport && !(Acknowledgement.read bytes).isSuccess
  | _ => false

def error? (visit : Visit) : Option ErrorKind :=
  match visit.request.entry?,visit.answer with
  | some _,.error error => some error.kind
  | _,_ => none

def series (visit : Visit) : List Series :=
  visit.reception?.toList.map .received ++ visit.charge?.toList.map .sent ++
    (if visit.confirmed then [.acknowledged true] else []) ++ (if visit.failing then [.acknowledged false] else []) ++
    visit.repaid?.toList.map (fun way => .refunded way.1 way.2) ++ visit.error?.toList.map .failed ++
    visit.request.entry?.toList.map .called

def counts (series : Series) (visit : Visit) : Bool :=
  match series with
  | .acknowledged true => visit.confirmed
  | .acknowledged false => visit.failing
  | .called entry => visit.request.entry? == some entry
  | .failed kind => visit.error? == some kind
  | .received reception => visit.reception? == some reception
  | .sent charge => visit.charge? == some charge
  | .refunded trigger mechanism => visit.repaid? == some (trigger,mechanism)

theorem count_listed {α : Type} [DecidableEq α] {name : α → Series} (apart : Function.Injective name)
    (found : Option α) (value : α) : (found.toList.map name).count (name value) = if found == some value then 1 else 0 := by
  cases found with
  | none => rfl
  | some other => simp [List.count_singleton,apart.eq_iff]

theorem count_unlisted {α : Type} {name : α → Series} {series : Series} (apart : ∀ value, name value ≠ series)
    (found : Option α) : (found.toList.map name).count series = 0 := by
  rw [List.count_eq_zero]
  simpa using fun value _ => apart value

theorem count_flagged (flag : Bool) (mark series : Series) :
    (if flag then [mark] else []).count series = if flag && mark == series then 1 else 0 := by
  cases flag <;> simp [List.count_singleton]

theorem series_count (visit : Visit) (series : Series) :
    visit.series.count series = if counts series visit then 1 else 0 := by
  unfold Visit.series counts
  simp only [List.count_append,count_flagged]
  cases series with
  | received reception =>
    rw [count_listed fun _ _ => Series.received.inj]
    simp [count_unlisted]
  | acknowledged success => cases success <;> simp [count_unlisted]
  | called entry =>
    rw [count_listed fun _ _ => Series.called.inj]
    simp [count_unlisted]
  | failed kind =>
    rw [count_listed fun _ _ => Series.failed.inj]
    simp [count_unlisted]
  | sent charge =>
    rw [count_listed fun _ _ => Series.sent.inj]
    simp [count_unlisted]
  | refunded trigger mechanism =>
    have pair : Function.Injective fun way : Trigger × Mechanism => Series.refunded way.1 way.2 := by
      intro one two same
      obtain ⟨first,second⟩ := Series.refunded.inj same
      exact Prod.ext first second
    have here := count_listed pair visit.repaid? (trigger,mechanism)
    simp only [here]
    simp [count_unlisted]

end Visit

namespace Chain
variable {chain next : Chain} {packet : Packet} {caller receiver : Address} {data : TransferData} {event : TransferEvent}
  {debit : Debit}

theorem creditOf_escrow {channel denom : String} {escrow : Option Address} {target : Address} {amount : Amount}
    (came : chain.creditOf packet data receiver = .release channel escrow target denom amount) :
    escrow = chain.escrowOf channel := by
  unfold creditOf at came
  split at came
  · cases came
    rfl
  · cases came

-- The movement that is answered tells what was decided: it names the zero address where
-- tokens are made or unmade, and no escrow that is registered is the zero address.
theorem receive_reception (registered : chain.surroundings.escrow = EscrowRegistry.account?)
    (received : receive caller packet chain = .ok event next) :
    ∃ credit, chain.receipt caller packet = .ok credit ∧ Host.receptionOf event = credit.reception := by
  obtain ⟨credit,receipt,paid⟩ := receive_exact.mp received
  refine ⟨credit,receipt,?_⟩
  cases credit with
  | mint target denom amount =>
    obtain ⟨rfl,_⟩ := pay_paid paid
    rfl
  | release channel escrow target denom amount =>
    obtain ⟨_,_,_,data,receiver,_,_,_,came⟩ := receipt_exact.mp receipt
    obtain ⟨account,rfl⟩ := pay_backed paid
    have known := (creditOf_escrow came.symm).trans (escrowOf_registered registered channel)
    obtain ⟨rfl,_⟩ := pay_paid paid
    unfold Host.receptionOf
    rw [released_shown known.symm]
    rfl

theorem send_charge {order : TransferOrder} {sent : SentPacket}
    (registered : chain.surroundings.escrow = EscrowRegistry.account?) (departed : send caller order chain = .ok sent next) :
    ∃ entry, next.outbound.inFlight.find sent.packet.id = some entry ∧ Host.chargeOf sent.event = entry.debit.label := by
  have leaves := Departure.send_leaves departed
  refine ⟨_,leaves.recorded,?_⟩
  have told : sent.event.target = (Departure.debit ⟨caller,order,sent⟩).payee := congrArg TransferEvent.target leaves.told
  unfold Host.chargeOf TransferEvent.isBurn Departure.entry
  rw [told]
  rcases debitFor_exact.mp leaves.cost with ⟨_,escrow,known,cost⟩ | ⟨_,cost⟩
  · have somebody : escrow ≠ .zero := by
      rw [escrowOf_registered registered] at known
      exact EscrowRegistry.account_somebody known
    rw [cost]
    exact if_neg (by simpa [Debit.payee] using somebody)
  · rw [cost]
    rfl

theorem refund_mechanism (refunded : refund packet chain = .ok (event,debit) next) :
    ∃ entry, chain.charged packet = .ok entry ∧ Host.mechanismOf debit = (repayment packet entry).mechanism := by
  obtain ⟨_,entry,_,charged,_,rfl,_⟩ := refund_exact.mp refunded
  refine ⟨entry,charged,?_⟩
  unfold repayment
  cases entry.debit with
  | escrowed escrow => rfl
  | burned => rfl

end Chain

namespace Host
open Call
variable {host : Host} {request : Request} {caller : Address} {packet : Packet} {order : TransferOrder} {bytes : Bytes}
  {marks : List Series} {answer : Except TransferError Reply} {chain : Chain}

def visit (host : Host) (request : Request) : Visit :=
  ⟨host.chain,request,(host.step request).1,(host.step request).2.chain⟩

def Counted (host : Host) (request : Request) : Prop :=
  (host.step request).2.counters = (host.visit request).series.foldl Counters.bump host.counters

theorem counted_ends (stepped : host.step request = (answer,host.behind chain marks))
    (same : Visit.series ⟨host.chain,request,answer,chain⟩ = marks) : host.Counted request := by
  unfold Counted visit
  rw [stepped]
  exact (congrArg (List.foldl Counters.bump host.counters) same).symm

theorem receive_counted (registered : host.chain.surroundings.escrow = EscrowRegistry.account?) :
    host.Counted (.receive caller packet) := by
  have stepped := host.receive_ends caller packet
  cases ran : Chain.receive caller packet host.chain with
  | ok event chain =>
    rw [ran] at stepped
    obtain ⟨credit,receipt,same⟩ := Chain.receive_reception registered ran
    have decided : Visit.reception? ⟨host.chain,.receive caller packet,.ok (.moved event),chain⟩ =
        some (receptionOf event) := by
      simp only [Visit.reception?,receipt,Except.toOption,Option.map_some,same]
    apply counted_ends stepped
    simp only [Visit.series,decided]
    rfl
  | error error chain =>
    rw [ran] at stepped
    exact counted_ends stepped rfl

theorem send_counted (registered : host.chain.surroundings.escrow = EscrowRegistry.account?) :
    host.Counted (.send caller order) := by
  have stepped := host.send_ends caller order
  cases ran : Chain.send caller order host.chain with
  | ok sent chain =>
    rw [ran] at stepped
    obtain ⟨entry,recorded,same⟩ := Chain.send_charge registered ran
    have decided : Visit.charge? ⟨host.chain,.send caller order,.ok (.sent sent),chain⟩ =
        some (chargeOf sent.event) := by
      simp only [Visit.charge?,recorded,Option.map_some,same]
    apply counted_ends stepped
    simp only [Visit.series,decided]
    rfl
  | error error chain =>
    rw [ran] at stepped
    exact counted_ends stepped rfl

theorem timeout_counted : host.Counted (.timeout caller packet) := by
  have stepped := host.timeout_ends caller packet
  cases admitted : host.chain.fromTransport caller with
  | error error =>
    rw [admitted] at stepped
    exact counted_ends stepped rfl
  | ok heard =>
    rw [admitted] at stepped
    cases ran : Chain.refund packet host.chain with
    | ok paid chain =>
      obtain ⟨event,debit⟩ := paid
      rw [ran] at stepped
      obtain ⟨entry,charged,same⟩ := Chain.refund_mechanism ran
      have decided : Visit.repaid? ⟨host.chain,.timeout caller packet,.ok (.moved event),chain⟩ =
          some (.timeout,mechanismOf debit) := by
        simp only [Visit.repaid?,Visit.mechanism?,charged,Except.toOption,Option.map_some,same]
      apply counted_ends stepped
      simp only [Visit.series,decided]
      rfl
    | error error chain =>
      rw [ran] at stepped
      exact counted_ends stepped rfl

-- A report by anyone but the transport is no report.
theorem unheard_failing {error : TransferError} (unheard : host.chain.fromTransport caller = .error error) :
    Visit.failing ⟨host.chain,.acknowledge caller packet bytes,answer,chain⟩ = false := by
  have stranger : caller ≠ host.chain.config.transport := by
    intro transport
    rw [Chain.fromTransport_exact.mpr transport] at unheard
    cases unheard
  simp [Visit.failing,stranger]

theorem heard_failing (heard : host.chain.fromTransport caller = .ok ()) :
    Visit.failing ⟨host.chain,.acknowledge caller packet bytes,answer,chain⟩ =
      !(Acknowledgement.read bytes).isSuccess := by
  simp [Visit.failing,Chain.fromTransport_exact.mp heard]

theorem acknowledge_counted : host.Counted (.acknowledge caller packet bytes) := by
  have stepped := host.acknowledge_ends caller packet bytes
  cases admitted : host.chain.fromTransport caller with
  | error error =>
    rw [admitted] at stepped
    apply counted_ends stepped
    simp only [Visit.series,unheard_failing admitted]
    rfl
  | ok heard =>
    have reported : ∀ {answer chain}, Visit.failing ⟨host.chain,.acknowledge caller packet bytes,answer,chain⟩ =
        !(Acknowledgement.read bytes).isSuccess := heard_failing admitted
    rw [admitted] at stepped
    cases outcome : Acknowledgement.read bytes with
    | success proof =>
      rw [outcome] at stepped reported
      simp only [Acknowledgement.isSuccess,Bool.not_true] at reported
      cases ran : Chain.confirm packet host.chain with
      | ok settled chain =>
        rw [ran] at stepped
        apply counted_ends stepped
        simp only [Visit.series,reported]
        rfl
      | error error chain =>
        rw [ran] at stepped
        apply counted_ends stepped
        simp only [Visit.series,reported]
        rfl
    | failure reason =>
      rw [outcome] at stepped reported
      simp only [Acknowledgement.isSuccess,Bool.not_false] at reported
      cases ran : Chain.refund packet host.chain with
      | ok paid chain =>
        obtain ⟨event,debit⟩ := paid
        rw [ran] at stepped
        obtain ⟨entry,charged,same⟩ := Chain.refund_mechanism ran
        have decided : Visit.repaid? ⟨host.chain,.acknowledge caller packet bytes,.ok (.moved event),chain⟩ =
            some (.acknowledgement,mechanismOf debit) := by
          simp only [Visit.repaid?,Visit.mechanism?,charged,Except.toOption,Option.map_some,same]
        apply counted_ends stepped
        simp only [Visit.series,reported,decided]
        rfl
      | error error chain =>
        rw [ran] at stepped
        apply counted_ends stepped
        simp only [Visit.series,reported]
        rfl

theorem onChain_counters {α : Type} (call : Call Chain α) : Keeps Host.counters (onChain call) :=
  keeps_within call fun _ _ => rfl

theorem aside_counters (unnoticed : request.entry? = none) : Keeps Host.counters request.perform := by
  cases request with
  | send | receive | acknowledge | timeout => cases unnoticed
  | restart config => exact keeps_modify_then fun _ => rfl
  | mint | burn | transfer | setDerivedEscrow => exact (onChain_counters _).map _
  | _ => exact (onChain_counters _).bind fun _ => keeps_pure _

theorem aside_counted (unnoticed : request.entry? = none) : host.Counted request := by
  have unlisted : (host.visit request).series = [] := by
    cases request with
    | send | receive | acknowledge | timeout => cases unnoticed
    | _ => rfl
  unfold Counted
  rw [unlisted,step_after]
  exact (aside_counters unnoticed).after host

theorem step_counted (host : Host) (request : Request)
    (registered : host.chain.surroundings.escrow = EscrowRegistry.account?) (series : Series) :
    (host.step request).2.counters series =
      host.counters series + if Visit.counts series (host.visit request) then 1 else 0 := by
  have counted : host.Counted request := by
    cases request with
    | receive => exact receive_counted registered
    | send => exact send_counted registered
    | acknowledge => exact acknowledge_counted
    | timeout => exact timeout_counted
    | _ => exact aside_counted rfl
  rw [counted,Counters.bumps_count,Visit.series_count]

theorem step_surroundings (host : Host) (request : Request) :
    (host.step request).2.chain.surroundings = host.chain.surroundings := by
  cases running : request.restarts with
  | false => exact congrArg (fun standing => standing.2.2) (step_standing running)
  | true =>
    cases request with
    | restart config => rfl
    | _ => cases running

end Host

structure Process where
  chains : Nat → Chain
  counters : Counters

namespace Process

-- Between the calls to a chain others may do with it what they like: its ledger and its
-- registries are not its own.
inductive Turn where
  | call (place : Nat) (request : Request)
  | shift (place : Nat) (chain : Chain)

def Turn.Registered : Turn → Prop
  | .call _ _ => True
  | .shift _ chain => chain.surroundings.escrow = EscrowRegistry.account?

open Host (relayed relay opening delivery reported homeward loaded guest)
variable {process : Process} {turn : Turn} {turns : List Turn}

def Registered (process : Process) : Prop :=
  ∀ place, (process.chains place).surroundings.escrow = EscrowRegistry.account?

def host (process : Process) (place : Nat) : Host := ⟨process.chains place,process.counters⟩

def put (process : Process) (place : Nat) (host : Host) : Process where
  chains other := if other = place then host.chain else process.chains other
  counters := host.counters

def step (process : Process) : Turn → Process
  | .call place request => process.put place ((process.host place).step request).2
  | .shift place chain => process.put place ⟨chain,process.counters⟩

def visited (process : Process) : Turn → List Visit
  | .call place request => [(process.host place).visit request]
  | .shift _ _ => []

def run (process : Process) (turns : List Turn) : Process := turns.foldl step process

def visits : Process → List Turn → List Visit
  | _,[] => []
  | process,turn :: rest => process.visited turn ++ visits (process.step turn) rest

theorem put_registered {place : Nat} {host : Host} (registered : process.Registered)
    (known : host.chain.surroundings.escrow = EscrowRegistry.account?) : (process.put place host).Registered := by
  intro other
  unfold put
  dsimp only
  split
  · exact known
  · exact registered other

theorem step_registered (registered : process.Registered) (known : turn.Registered) : (process.step turn).Registered := by
  cases turn with
  | call place request =>
    apply put_registered registered
    rw [Host.step_surroundings]
    exact registered place
  | shift place chain => exact put_registered registered known

theorem step_counted (registered : process.Registered) (series : Series) :
    (process.step turn).counters series =
      process.counters series + (process.visited turn).countP (Visit.counts series) := by
  cases turn with
  | call place request =>
    rw [visited,List.countP_singleton]
    exact (process.host place).step_counted request (registered place) series
  | shift place chain => rfl

theorem run_counted (registered : process.Registered) (known : ∀ turn ∈ turns, turn.Registered) (series : Series) :
    (process.run turns).counters series =
      process.counters series + (process.visits turns).countP (Visit.counts series) := by
  induction turns generalizing process with
  | nil => rfl
  | cons turn rest ih =>
    have next := step_registered registered (known turn List.mem_cons_self)
    have later := ih next fun other member => known other (List.mem_cons_of_mem turn member)
    rw [visits,List.countP_append,← Nat.add_assoc,← step_counted registered]
    exact later

theorem calls_accounted (process : Process) (turns : List Turn) (fresh : process.counters = .none)
    (registered : process.Registered) (known : ∀ turn ∈ turns, turn.Registered) :
    let tally := (process.run turns).counters
    let visits := process.visits turns
    (∀ reception, tally (.received reception) = visits.countP (·.reception? == some reception)) ∧
      (∀ charge, tally (.sent charge) = visits.countP (·.charge? == some charge)) ∧
      (∀ trigger mechanism,
        tally (.refunded trigger mechanism) = visits.countP (·.repaid? == some (trigger,mechanism))) ∧
      tally (.acknowledged true) = visits.countP Visit.confirmed ∧
      tally (.acknowledged false) = visits.countP Visit.failing ∧
      (∀ kind, tally (.failed kind) = visits.countP (·.error? == some kind)) ∧
      ∀ entry, tally (.called entry) = visits.countP (·.request.entry? == some entry) := by
  intro tally visits
  have counted : ∀ series, tally series = visits.countP (Visit.counts series) := by
    intro series
    have all := run_counted registered known series
    rw [fresh] at all
    exact all.trans (Nat.zero_add _)
  exact ⟨fun _ => counted _,fun _ => counted _,fun _ _ => counted _,counted _,counted _,fun _ => counted _,
    fun _ => counted _⟩

def allRelayed : Process := ⟨fun _ => relayed.chain,.none⟩

def refundsAndReturn : List Turn :=
  let late : Request :=
    .acknowledge relay {reported with sequence := 2} (Acknowledgement.failure "late").write
  (opening ++ [delivery 4,delivery 5,.timeout relay reported,late,late,delivery 6,
      .restart {Config.new relay with releaseUnprefixed := true},.receive relay homeward]).map (.call 0) ++
    [.shift 1 loaded.chain,.call 1 (.timeout guest reported)]

theorem calls_accounted_refundsAndReturn :
    allRelayed.counters = .none ∧ allRelayed.Registered ∧ (∀ turn ∈ refundsAndReturn, turn.Registered) ∧
      (allRelayed.run refundsAndReturn).counters (.sent .escrow) = 3 ∧
      (allRelayed.visits refundsAndReturn).countP (·.charge? == some .escrow) = 3 ∧
      (allRelayed.visits refundsAndReturn).countP (·.reception? == some .released) = 1 ∧
      (allRelayed.visits refundsAndReturn).countP (·.repaid? == some (.timeout,.release)) = 1 ∧
      (allRelayed.visits refundsAndReturn).countP (·.repaid? == some (.acknowledgement,.release)) = 1 ∧
      (allRelayed.visits refundsAndReturn).countP Visit.failing = 2 ∧
      (allRelayed.visits refundsAndReturn).countP (·.error? == some .alreadySettled) = 1 ∧
      (allRelayed.visits refundsAndReturn).countP (·.error? == some .unauthorized) = 1 := by
  have facts : (allRelayed.run refundsAndReturn).counters (.sent .escrow) = 3 ∧
      (allRelayed.run refundsAndReturn).counters (.received .released) = 1 ∧
      (allRelayed.run refundsAndReturn).counters (.refunded .timeout .release) = 1 ∧
      (allRelayed.run refundsAndReturn).counters (.refunded .acknowledgement .release) = 1 ∧
      (allRelayed.run refundsAndReturn).counters (.acknowledged false) = 2 ∧
      (allRelayed.run refundsAndReturn).counters (.failed .alreadySettled) = 1 ∧
      (allRelayed.run refundsAndReturn).counters (.failed .unauthorized) = 1 := by decide +kernel
  have registered : allRelayed.Registered := fun _ => rfl
  have known : ∀ turn ∈ refundsAndReturn, turn.Registered := by
    intro turn member
    rcases List.mem_append.mp member with called | shifted
    · obtain ⟨request,_,rfl⟩ := List.mem_map.mp called
      trivial
    · rcases shifted with _ | ⟨_,_ | ⟨_,none⟩⟩
      · rfl
      · trivial
      · cases none
  obtain ⟨sent,released,expired,failed,failing,settled,unauthorized⟩ := facts
  obtain ⟨received,departed,refunded,_,reported,refused,_⟩ := calls_accounted allRelayed refundsAndReturn rfl registered known
  exact ⟨rfl,registered,known,sent,(departed .escrow).symm.trans sent,(received .released).symm.trans released,
    (refunded .timeout .release).symm.trans expired,(refunded .acknowledgement .release).symm.trans failed,
    reported.symm.trans failing,(refused .alreadySettled).symm.trans settled,
    (refused .unauthorized).symm.trans unauthorized⟩

end Process
end TokenTransfer
