import TokenTransfer.Proofs.Answers
import TokenTransfer.Proofs.Frames

namespace TokenTransfer

namespace SettledWindow
variable {window : SettledWindow} {sequence other : UInt64}

-- Sequences below the last one: the watermark can pass them.
def Inner (sequence : UInt64) : Prop := sequence.toNat + 1 < UInt64.size

instance (sequence : UInt64) : Decidable (Inner sequence) := inferInstanceAs (Decidable (_ < _))

theorem contains_exact : window.contains sequence = true ↔ sequence < window.watermark ∨ sequence ∈ window.ahead := by
  unfold SettledWindow.contains
  simp

theorem ascending_distinct {sequences : List UInt64} (ascending : sequences.Pairwise (· < ·)) : sequences.Nodup := by
  apply ascending.imp
  intro a b below same
  subst same
  exact UInt64.lt_irrefl a below

theorem lt_next {watermark : UInt64} (inner : Inner sequence) :
    sequence < Sequence.next watermark ↔ sequence < watermark ∨ sequence = watermark := by
  unfold Inner at inner
  unfold Sequence.next
  rw [← UInt64.toNat_inj,UInt64.lt_iff_toNat_lt,UInt64.lt_iff_toNat_lt]
  split
  · rename_i room
    rw [UInt64.toNat_add,Nat.mod_eq_of_lt (by simpa using room)]
    simp only [UInt64.reduceToNat]
    omega
  · rename_i full
    omega

theorem advance_contains (steps : Nat) (window : SettledWindow) (inner : Inner sequence) :
    (advance steps window).contains sequence = true ↔ window.contains sequence = true := by
  induction steps generalizing window with
  | zero => rfl
  | succ steps ih =>
    rw [advance]
    split
    · rename_i listed
      rw [ih,contains_exact,contains_exact,lt_next inner,(ascending_distinct window.ascending).mem_erase_iff]
      constructor
      · intro parts
        rcases parts with (below | here) | ⟨_,ahead⟩
        · exact .inl below
        · exact .inr (here ▸ listed)
        · exact .inr ahead
      · intro parts
        rcases parts with below | ahead
        · exact .inl (.inl below)
        · by_cases here : sequence = window.watermark
          · exact .inl (.inr here)
          · exact .inr ⟨here,ahead⟩
    · rfl

theorem insert_contains (window : SettledWindow) (inner : Inner sequence) :
    (window.insert other).contains sequence = true ↔ sequence = other ∨ window.contains sequence = true := by
  unfold SettledWindow.insert
  rw [advance_contains _ _ inner,contains_exact,contains_exact,Sequence.mem_insert]
  constructor
  · intro parts
    rcases parts with below | same | ahead
    · exact .inr (.inl below)
    · exact .inl same
    · exact .inr (.inr ahead)
  · intro parts
    rcases parts with same | below | ahead
    · exact .inr (.inl same)
    · exact .inl below
    · exact .inr (.inr ahead)

-- Nothing else gets in, the last sequence included.
theorem lt_next_only {watermark : UInt64} (below : sequence < Sequence.next watermark) :
    sequence < watermark ∨ sequence = watermark := by
  unfold Sequence.next at below
  rw [← UInt64.toNat_inj,UInt64.lt_iff_toNat_lt]
  rw [UInt64.lt_iff_toNat_lt] at below
  split at below
  · rename_i room
    rw [UInt64.toNat_add,Nat.mod_eq_of_lt (by simpa using room)] at below
    simp only [UInt64.reduceToNat] at below
    omega
  · exact .inl below

theorem advance_only (steps : Nat) (window : SettledWindow) (inside : (advance steps window).contains sequence = true) :
    window.contains sequence = true := by
  induction steps generalizing window with
  | zero => exact inside
  | succ steps ih =>
    rw [advance] at inside
    split at inside
    · rename_i listed
      rw [contains_exact]
      rcases contains_exact.mp (ih _ inside) with below | ahead
      · rcases lt_next_only below with smaller | here
        · exact .inl smaller
        · exact .inr (here ▸ listed)
      · exact .inr (List.mem_of_mem_erase ahead)
    · exact inside

theorem insert_only (inside : (window.insert other).contains sequence = true) :
    sequence = other ∨ window.contains sequence = true := by
  rcases contains_exact.mp (advance_only _ _ inside) with below | ahead
  · exact .inr (contains_exact.mpr (.inl below))
  · exact (Sequence.mem_insert.mp ahead).imp id fun listed => contains_exact.mpr (.inr listed)

end SettledWindow

theorem Sequence.next_toNat {sequence : UInt64} (inner : SettledWindow.Inner sequence) :
    (Sequence.next sequence).toNat = sequence.toNat + 1 := by
  unfold SettledWindow.Inner at inner
  unfold Sequence.next
  rw [if_pos inner,UInt64.toNat_add]
  exact Nat.mod_eq_of_lt inner

theorem Sequence.next_positive (sequence : UInt64) : Sequence.next sequence ≠ 0 := by
  intro nothing
  unfold Sequence.next at nothing
  split at nothing
  · rename_i room
    have sum := congrArg UInt64.toNat nothing
    rw [UInt64.toNat_add,Nat.mod_eq_of_lt (by simpa using room)] at sum
    cases sum
  · rename_i full
    rw [nothing] at full
    exact full (by decide)

namespace Outbound
open SettledWindow
variable {outbound : Outbound} {place : ChannelEnd} {sequence : UInt64} {packet : Packet}

theorem send_find (outbound : Outbound) (packet : Packet) (entry : InFlight) (id : PacketId) :
    (outbound.send packet entry).inFlight.find id =
      if id = packet.id then some entry else outbound.inFlight.find id := Table.find_put _ _ _ _

theorem send_next (outbound : Outbound) (packet : Packet) (entry : InFlight) (place : ChannelEnd) :
    (outbound.send packet entry).next place =
      if place = packet.source then Sequence.next packet.sequence else outbound.next place := by
  unfold Outbound.send Outbound.next
  rw [Table.find_put]
  split <;> rfl

theorem settle_find (outbound : Outbound) (packet : Packet) (id : PacketId) :
    (outbound.settle packet).inFlight.find id = if id = packet.id then none else outbound.inFlight.find id :=
  Table.find_erase _ _ _

theorem settle_finds {id : PacketId} {entry : InFlight} : (outbound.settle packet).inFlight.find id = some entry ↔
    id ≠ packet.id ∧ outbound.inFlight.find id = some entry := by
  rw [settle_find]
  split
  · rename_i same
    simp [same]
  · rename_i other
    simp [other]

theorem isSettled_found (outbound : Outbound) (place : ChannelEnd) (sequence : UInt64) :
    outbound.isSettled place sequence = ((outbound.settled.find place).map (·.contains sequence)).getD false := by
  unfold Outbound.isSettled
  cases outbound.settled.find place <;> rfl

theorem isSettled_window (settled : outbound.isSettled place sequence = true) :
    (outbound.window place).contains sequence = true := by
  unfold Outbound.isSettled at settled
  unfold Outbound.window
  cases found : outbound.settled.find place with
  | none => simp [found] at settled
  | some window => simpa [found] using settled

theorem settle_window (outbound : Outbound) (packet : Packet) (place : ChannelEnd) (sequence : UInt64) :
    (outbound.settle packet).isSettled place sequence =
      if place = packet.source then ((outbound.window packet.source).insert packet.sequence).contains sequence
      else outbound.isSettled place sequence := by
  rw [isSettled_found,isSettled_found]
  unfold Outbound.settle
  rw [Table.find_put]
  split <;> rfl

theorem settle_keeps (inner : Inner sequence) (settled : outbound.isSettled place sequence = true) :
    (outbound.settle packet).isSettled place sequence = true := by
  rw [settle_window]
  split
  · rename_i here
    rw [insert_contains _ inner]
    exact .inr (isSettled_window (here ▸ settled))
  · exact settled

theorem settle_settles (inner : Inner packet.sequence) :
    (outbound.settle packet).isSettled packet.source packet.sequence = true := by
  rw [settle_window,if_pos rfl,insert_contains _ inner]
  exact .inl rfl

-- Settling a packet settles no other sequence. The window that it may open holds
-- sequence zero, which no packet is sent under.
theorem settle_only (settled : (outbound.settle packet).isSettled place sequence = true) :
    outbound.isSettled place sequence = true ∨ (place = packet.source ∧ sequence = packet.sequence) ∨ sequence = 0 := by
  rw [settle_window] at settled
  split at settled
  · rename_i here
    subst here
    rcases insert_only settled with same | before
    · exact .inr (.inl ⟨rfl,same⟩)
    · rw [isSettled_found]
      unfold Outbound.window at before
      cases found : outbound.settled.find packet.source with
      | some window =>
        rw [found] at before
        exact .inl before
      | none =>
        rw [found] at before
        have nothing : sequence < 1 := by simpa [SettledWindow.contains,SettledWindow.new] using before
        rw [UInt64.lt_iff_toNat_lt] at nothing
        exact .inr (.inr (UInt64.toNat_inj.mp (Nat.lt_one_iff.mp nothing)))
  · exact .inl settled

theorem settle_settled (inner : Inner sequence) (positive : sequence ≠ 0) :
    (outbound.settle packet).isSettled place sequence = true ↔
      outbound.isSettled place sequence = true ∨ place = packet.source ∧ sequence = packet.sequence := by
  constructor
  · intro settled
    rcases settle_only settled with before | here | nothing
    · exact .inl before
    · exact .inr here
    · exact absurd nothing positive
  · intro parts
    rcases parts with before | ⟨rfl,rfl⟩
    · exact settle_keeps inner before
    · exact settle_settles inner

end Outbound

namespace Request
open Call SettledWindow
variable {host next : Host} {request : Request} {reply : Reply} {place : ChannelEnd} {sequence : UInt64}

def packet? : Request → Option Packet
  | .acknowledge _ packet _ => some packet
  | .timeout _ packet => some packet
  | _ => none

def settles (place : ChannelEnd) (sequence : UInt64) (request : Request) : Bool :=
  request.packet?.any fun packet => packet.source == place && packet.sequence == sequence

def restarts : Request → Bool
  | .restart _ => true
  | _ => false

def caller? : Request → Option Address
  | .setOperator caller _ | .mint caller .. | .burn caller .. | .transfer caller .. | .handOver _ caller _
  | .setEscrow caller .. | .setDerivedEscrow caller _ | .bindPort caller _ | .openChannel caller ..
  | .send caller _ | .receive caller _ | .acknowledge caller .. | .timeout caller _ => some caller
  | .restart _ => none

theorem settles_exact : request.settles place sequence = true ↔
    ∃ packet, request.packet? = some packet ∧ packet.source = place ∧ packet.sequence = sequence := by
  unfold settles
  cases request.packet? <;> simp

def administers : Request → Bool
  | .setOperator .. | .handOver .. | .setEscrow .. | .setDerivedEscrow .. | .bindPort .. | .openChannel .. => true
  | _ => false

def dealingsOf (host : Host) : Chain := host.chain.dealings

theorem role_dealings {check : Ledger → Except TransferError Unit} {change : Ledger → Ledger}
    (kept : ∀ chain : Chain, {chain with ledger := change chain.ledger}.dealings = chain.dealings) :
    Keeps dealingsOf (Host.onChain (Chain.onLedger
      (get >>= fun ledger => Call.check (check ledger) >>= fun _ => modify change))) := by
  intro host
  unfold Host.onChain Chain.onLedger Call.within
  rw [Call.get_then,Call.bind_on,Call.check_on]
  cases check host.chain.ledger with
  | ok allowed => exact kept host.chain
  | error error => rfl

theorem administered_dealings (administers : request.administers = true) : Keeps dealingsOf request.perform := by
  have registry : ∀ {α τ : Type} {part : Chain → τ} {store : Chain → τ → Chain} {call : Call τ α},
      (∀ chain inner, (store chain inner).dealings = chain.dealings) →
        Keeps dealingsOf (Host.onChain (within part store call)) := part_keeps Chain.dealings
  have done : ∀ {call : Call Host Unit}, Keeps dealingsOf call →
      Keeps dealingsOf (call >>= fun _ => pure Reply.done) := fun keeps => keeps.bind fun _ => keeps_pure _
  cases request with
  | setOperator =>
    apply done
    exact role_dealings fun _ => rfl
  | handOver part =>
    apply done
    cases part with
    | ledger => exact role_dealings fun _ => rfl
    | escrows | channels => exact registry fun _ _ => rfl
  | setEscrow | bindPort | openChannel =>
    apply done
    exact registry fun _ _ => rfl
  | setDerivedEscrow =>
    refine Keeps.map ?_ _
    exact registry fun _ _ => rfl
  | _ => cases administers

def outboundOf (host : Host) : Outbound := host.chain.outbound

theorem steady_outbound (running : request.restarts = false) (unreported : request.packet? = none)
    (idle : ∀ caller order, request ≠ .send caller order) (answered : request.perform host = .ok reply next) :
    outboundOf next = outboundOf host := by
  cases request with
  | restart => cases running
  | send => exact absurd rfl (idle _ _)
  | acknowledge => cases unreported
  | timeout => cases unreported
  | mint | burn | transfer =>
    refine Keeps.ok ?_ answered
    refine Keeps.map ?_ _
    exact part_keeps Chain.outbound fun _ _ => rfl
  | receive =>
    simp only [perform,map_eq_pure_bind] at answered
    obtain ⟨event,middle,ran,told⟩ := Call.bind_ok.mp answered
    cases told
    obtain ⟨credit,_,paid⟩ := Chain.receive_exact.mp (Host.receive_ok ran)
    obtain ⟨ledger,same,_⟩ := Chain.pay_parts paid
    unfold outboundOf
    rw [same]
  | _ =>
    have kept := congrArg Chain.outbound ((administered_dealings rfl).ok answered)
    exact kept

theorem perform_outbound (running : request.restarts = false) (answered : request.perform host = .ok reply next) :
    match request.packet? with
    | some packet => (outboundOf host).isSettled packet.source packet.sequence = false ∧
        outboundOf next = (outboundOf host).settle packet
    | none => outboundOf next = outboundOf host ∨ ∃ packet entry, outboundOf next = (outboundOf host).send packet entry := by
  have refunded : ∀ {packet event debit}, Chain.refund packet host.chain = .ok (event,debit) next.chain →
      (outboundOf host).isSettled packet.source packet.sequence = false ∧
        outboundOf next = (outboundOf host).settle packet := by
    intro packet event debit ran
    obtain ⟨fresh,entry,middle,_,paid,_,settled⟩ := Chain.refund_exact.mp ran
    obtain ⟨ledger,same,_⟩ := Chain.pay_parts paid
    refine ⟨fresh,?_⟩
    unfold outboundOf
    rw [settled,same]
  cases request with
  | restart => cases running
  | send caller order =>
    simp only [perform,map_eq_pure_bind] at answered
    obtain ⟨sent,middle,ran,told⟩ := Call.bind_ok.mp answered
    cases told
    obtain ⟨_,_,debit,_,_,_,_,booked⟩ := Chain.send_exact.mp (Host.send_ok ran)
    refine .inr ⟨sent.packet,⟨caller,order.denom,order.amount,debit⟩,?_⟩
    unfold outboundOf
    rw [booked]
  | acknowledge caller packet bytes =>
    simp only [perform,map_eq_pure_bind] at answered
    obtain ⟨answer,middle,ran,told⟩ := Call.bind_ok.mp answered
    cases told
    obtain ⟨_,settled⟩ := Host.acknowledge_ok ran
    cases answer with
    | none =>
      obtain ⟨fresh,same⟩ := Chain.confirm_exact.mp settled.2
      refine ⟨fresh,?_⟩
      unfold outboundOf
      rw [same]
    | some event =>
      obtain ⟨_,debit,ran⟩ := settled
      exact refunded ran
  | timeout caller packet =>
    simp only [perform,map_eq_pure_bind] at answered
    obtain ⟨event,middle,ran,told⟩ := Call.bind_ok.mp answered
    cases told
    obtain ⟨_,debit,ran⟩ := Host.timeout_ok ran
    exact refunded ran
  | _ => exact .inl (steady_outbound running rfl (fun _ _ same => by cases same) answered)

def standingOf (host : Host) : Config × Address × Surroundings :=
  (host.chain.config,host.chain.identity,host.chain.surroundings)

-- What packets cannot move shows the same behind every request that does not administer.
theorem perform_unmoved {ν : Type} {view : Chain → ν} (unmoved : Chain.Unmoved view)
    (running : request.restarts = false) (ordinary : request.administers = false) :
    Keeps (fun host => view host.chain) request.perform := by
  cases request with
  | restart => cases running
  | mint =>
    exact (Host.onChain_keeps (Chain.onLedger_unmoved unmoved (Ledger.mint_roles _ _ _ _))).map _
  | burn =>
    exact (Host.onChain_keeps (Chain.onLedger_unmoved unmoved (Ledger.burn_roles _ _ _ _))).map _
  | transfer =>
    exact (Host.onChain_keeps (Chain.onLedger_unmoved unmoved (Ledger.transfer_roles _ _ _ _ _))).map _
  | send => exact (Host.observed_keeps (Host.onChain_keeps (Chain.send_unmoved unmoved _ _))).map _
  | receive => exact (Host.observed_keeps (Host.onChain_keeps (Chain.receive_unmoved unmoved _ _))).map _
  | acknowledge => exact (Host.acknowledge_unmoved unmoved _ _ _).map _
  | timeout => exact (Host.timeout_unmoved unmoved _ _).map _
  | _ => cases ordinary

theorem perform_standing (running : request.restarts = false) : Keeps standingOf request.perform := by
  cases administers : request.administers with
  | false =>
    have unmoved : Chain.Unmoved fun chain => (chain.config,chain.identity,chain.surroundings) := fun _ _ _ _ => rfl
    exact perform_unmoved unmoved running administers
  | true =>
    refine (administered_dealings administers).weaken fun one two same => ?_
    have parts : ∀ {one two : Chain}, one = two →
        (one.config,one.identity,one.surroundings) = (two.config,two.identity,two.surroundings) := fun same => same ▸ rfl
    have kept := parts same
    exact kept

end Request

namespace Host
open SettledWindow
variable {host : Host} {request : Request} {packet : Packet} {place : ChannelEnd} {sequence : UInt64}
  {requests : List Request}

theorem step_standing (running : request.restarts = false) :
    Request.standingOf (host.step request).2 = Request.standingOf host := by
  have kept := Request.perform_standing running host
  unfold Host.step
  cases ran : request.perform host with
  | ok reply next => rwa [ran] at kept
  | error error next => rwa [ran] at kept

theorem step_keeps_settled (running : request.restarts = false) (inner : Inner sequence)
    (settled : host.chain.outbound.isSettled place sequence = true) :
    (host.step request).2.chain.outbound.isSettled place sequence = true := by
  unfold Host.step
  cases ran : request.perform host with
  | error error next =>
    have same := Request.perform_traceless request host error next ran
    simpa only [same] using settled
  | ok reply next =>
    have booked := Request.perform_outbound running ran
    show (Request.outboundOf next).isSettled place sequence = true
    cases about : request.packet? with
    | some packet =>
      rw [about] at booked
      rw [booked.2]
      exact Outbound.settle_keeps inner settled
    | none =>
      rw [about] at booked
      rcases booked with same | ⟨packet,entry,same⟩
      · rw [same]
        exact settled
      · rw [same]
        exact settled

theorem reports_run (named : request.packet? = some packet) : request.restarts = false := by
  cases request <;> first | rfl | cases named

theorem step_settles (about : request.settles place sequence = true) (inner : Inner sequence)
    (accepted : (host.step request).1.isOk = true) :
    (host.step request).2.chain.outbound.isSettled place sequence = true := by
  obtain ⟨packet,named,rfl,rfl⟩ := Request.settles_exact.mp about
  unfold Host.step at accepted ⊢
  cases ran : request.perform host with
  | error error next =>
    rw [ran] at accepted
    cases accepted
  | ok reply next =>
    have booked := Request.perform_outbound (reports_run named) ran
    rw [named] at booked
    show (Request.outboundOf next).isSettled packet.source packet.sequence = true
    rw [booked.2]
    exact Outbound.settle_settles inner

theorem step_refuses (about : request.settles place sequence = true)
    (settled : host.chain.outbound.isSettled place sequence = true) : (host.step request).1.isOk = false := by
  obtain ⟨packet,named,rfl,rfl⟩ := Request.settles_exact.mp about
  unfold Host.step
  cases ran : request.perform host with
  | error error next => rfl
  | ok reply next =>
    have booked := Request.perform_outbound (reports_run named) ran
    rw [named] at booked
    have fresh : host.chain.outbound.isSettled packet.source packet.sequence = false := booked.1
    rw [settled] at fresh
    cases fresh

theorem step_settled (about : request.settles place sequence = true)
    (settled : host.chain.outbound.isSettled place sequence = true)
    (transport : request.caller? = some host.chain.config.transport) :
    (host.step request).1 = .error (.alreadySettled place sequence) ∧ (host.step request).2.chain = host.chain := by
  obtain ⟨packet,named,rfl,rfl⟩ := Request.settles_exact.mp about
  cases request with
  | acknowledge caller known bytes =>
    cases named
    rw [acknowledge_ends,Chain.fromTransport_exact.mpr (Option.some.inj transport)]
    cases Acknowledgement.read bytes with
    | success proof =>
      rw [Chain.confirm_settled settled]
      exact ⟨rfl,rfl⟩
    | failure reason =>
      rw [Chain.refund_settled settled]
      exact ⟨rfl,rfl⟩
  | timeout caller known =>
    cases named
    rw [timeout_ends,Chain.fromTransport_exact.mpr (Option.some.inj transport),Chain.refund_settled settled]
    exact ⟨rfl,rfl⟩
  | _ => cases named

theorem run_cons (host : Host) (request : Request) (rest : List Request) :
    host.run (request :: rest) =
      ((host.step request).1 :: ((host.step request).2.run rest).1,((host.step request).2.run rest).2) := rfl

theorem run_append (host : Host) (earlier later : List Request) :
    (host.run (earlier ++ later)).2 = ((host.run earlier).2.run later).2 := by
  induction earlier generalizing host with
  | nil => rfl
  | cons request rest ih =>
    rw [List.cons_append,run_cons,run_cons]
    exact ih _

theorem run_standing (running : ∀ request ∈ requests, request.restarts = false) :
    Request.standingOf (host.run requests).2 = Request.standingOf host := by
  induction requests generalizing host with
  | nil => rfl
  | cons request rest ih =>
    rw [run_cons]
    exact (ih fun later present => running later (List.mem_cons_of_mem _ present)).trans
      (step_standing (running request List.mem_cons_self))

theorem run_config (running : ∀ request ∈ requests, request.restarts = false) :
    (host.run requests).2.chain.config = host.chain.config := congrArg Prod.fst (run_standing running)

theorem run_keeps_settled (running : ∀ request ∈ requests, request.restarts = false) (inner : Inner sequence)
    (settled : host.chain.outbound.isSettled place sequence = true) :
    (host.run requests).2.chain.outbound.isSettled place sequence = true := by
  induction requests generalizing host with
  | nil => exact settled
  | cons request rest ih =>
    rw [run_cons]
    exact ih (fun later present => running later (List.mem_cons_of_mem _ present))
      (step_keeps_settled (running request List.mem_cons_self) inner settled)

def settlements (place : ChannelEnd) (sequence : UInt64) (host : Host) (requests : List Request) : Nat :=
  (requests.zip (host.run requests).1).countP fun entry => entry.1.settles place sequence && entry.2.isOk

theorem settlements_cons (host : Host) (request : Request) (rest : List Request) :
    settlements place sequence host (request :: rest) =
      settlements place sequence (host.step request).2 rest +
        if (request.settles place sequence && (host.step request).1.isOk) = true then 1 else 0 := by
  unfold settlements
  rw [run_cons,List.zip_cons_cons,List.countP_cons]

theorem settlements_settled (running : ∀ request ∈ requests, request.restarts = false) (inner : Inner sequence)
    (settled : host.chain.outbound.isSettled place sequence = true) : settlements place sequence host requests = 0 := by
  induction requests generalizing host with
  | nil => rfl
  | cons request rest ih =>
    rw [settlements_cons,ih (fun later present => running later (List.mem_cons_of_mem _ present))
      (step_keeps_settled (running request List.mem_cons_self) inner settled)]
    cases about : request.settles place sequence with
    | false => rfl
    | true =>
      rw [step_refuses about settled]
      rfl

theorem settlements_le_one (running : ∀ request ∈ requests, request.restarts = false) (inner : Inner sequence) :
    settlements place sequence host requests ≤ 1 := by
  induction requests generalizing host with
  | nil => exact Nat.zero_le _
  | cons request rest ih =>
    have later := fun later present => running later (List.mem_cons_of_mem _ present)
    rw [settlements_cons]
    split
    · rename_i accepted
      rw [Bool.and_eq_true] at accepted
      have none := settlements_settled later inner (step_settles accepted.1 inner accepted.2)
      omega
    · exact ih later

theorem settled_once (host : Host) (requests : List Request)
    (running : ∀ request ∈ requests, request.restarts = false) (place : ChannelEnd) (sequence : UInt64)
    (inner : Inner sequence) :
    settlements place sequence host requests ≤ 1 ∧
      ∀ earlier first between later rest, requests = earlier ++ first :: (between ++ later :: rest) →
        first.settles place sequence = true → ((host.run earlier).2.step first).1.isOk = true →
        later.settles place sequence = true → later.caller? = some host.chain.config.transport →
        let reached := (host.run (earlier ++ first :: between)).2
        (reached.step later).1 = .error (.alreadySettled place sequence) ∧
          (reached.step later).2.chain = reached.chain := by
  refine ⟨settlements_le_one running inner,?_⟩
  intro earlier first between later rest split about accepted again transport reached
  have running' : ∀ request ∈ earlier ++ first :: between, request.restarts = false := by
    intro request present
    apply running
    rw [split]
    simp only [List.mem_append,List.mem_cons] at present ⊢
    rcases present with early | here | middle
    · exact .inl early
    · exact .inr (.inl here)
    · exact .inr (.inr (.inl middle))
  have settled : reached.chain.outbound.isSettled place sequence = true := by
    show (host.run (earlier ++ first :: between)).2.chain.outbound.isSettled place sequence = true
    rw [run_append,run_cons]
    exact run_keeps_settled (fun request present => running' request (by simp [present])) inner
      (step_settles about inner accepted)
  have config : reached.chain.config = host.chain.config := run_config running'
  exact step_settled again settled (config ▸ transport)

def relay : Address := ⟨List.replicate 20 7,rfl⟩

def relayed : Host := ⟨Chain.new (.new relay) relay relay .plain,.none⟩

def reported : Packet := ⟨1,⟨"transfer","channel-0"⟩,⟨"transfer","channel-1"⟩,[],.zero,0⟩

def arrival : Request := .acknowledge relay reported Acknowledgement.standard.write

theorem settled_once_replay :
    (∀ request ∈ [arrival,.timeout relay reported], request.restarts = false) ∧ Inner reported.sequence ∧
      arrival.settles reported.source 1 = true ∧ (relayed.step arrival).1.isOk = true ∧
      settlements reported.source 1 relayed [arrival,.timeout relay reported] ≤ 1 ∧
      ((relayed.run [arrival]).2.step (.timeout relay reported)).1 = .error (.alreadySettled reported.source 1) := by
  have running : ∀ request ∈ [arrival,.timeout relay reported], request.restarts = false := by decide
  have inner : Inner reported.sequence := by decide
  have about : arrival.settles reported.source 1 = true := by decide
  have accepted : (relayed.step arrival).1.isOk = true := by decide +kernel
  have once := settled_once relayed [arrival,.timeout relay reported] running reported.source 1 inner
  refine ⟨running,inner,about,accepted,once.1,?_⟩
  exact (once.2 [] arrival [] (.timeout relay reported) [] rfl about accepted (by decide) rfl).1

end Host
end TokenTransfer
