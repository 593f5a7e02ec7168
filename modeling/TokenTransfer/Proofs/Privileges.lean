import TokenTransfer.Proofs.Answers
import TokenTransfer.Proofs.OutboundBooks

namespace TokenTransfer

namespace Request
open Call
variable {host next : Host} {request : Request} {reply : Reply} {caller : Address}

-- The role that a request is made in. To send is open to everybody, and a restart is
-- not asked for by an account.
def role? : Request → Option Role
  | .setOperator .. | .handOver .. | .setEscrow .. | .setDerivedEscrow .. | .bindPort .. | .openChannel .. => some .owner
  | .mint .. | .burn .. | .transfer .. => some .operator
  | .receive .. | .acknowledge .. | .timeout .. => some .transport
  | .send .. | .restart _ => none

def intrudes (outsider : Address → Bool) (request : Request) : Bool :=
  request.role?.isSome && request.caller?.any outsider

theorem intrudes_exact {outsider : Address → Bool} : request.intrudes outsider = true ↔
    ∃ role caller, request.role? = some role ∧ request.caller? = some caller ∧ outsider caller = true := by
  unfold intrudes
  cases request.role? <;> cases request.caller? <;> simp

theorem owned_ok {σ : Type} {part : Chain → σ} {store : Chain → σ → Chain} {owner : σ → Address} {change : σ → σ}
    (answered : (Host.onChain (within part store (get >>= fun state =>
      Call.check (Guard.authorized caller (owner state) .owner) >>= fun _ => modify change)) >>=
        fun _ => pure Reply.done) host = .ok reply next) :
    caller = owner (part host.chain) ∧ next.chain = store host.chain (change (part host.chain)) := by
  obtain ⟨_,middle,ran,told⟩ := bind_ok.mp answered
  cases told
  obtain ⟨chain,written,rfl⟩ := Host.onChain_ok.mp ran
  obtain ⟨inner,changed,rfl⟩ := within_ok.mp written
  rw [get_then,check_then] at changed
  obtain ⟨_,authorized,done⟩ := changed
  cases done
  exact ⟨Guard.authorized_exact.mp authorized,rfl⟩

end Request

namespace Chain
variable {chain : Chain} {request : Request} {account : Address}

def owner (chain : Chain) : Part → Address
  | .ledger => chain.ledger.owner
  | .escrows => chain.escrows.owner
  | .channels => chain.channels.owner

def holders (chain : Chain) : List Address :=
  chain.ledger.owner :: chain.escrows.owner :: chain.channels.owner :: chain.config.transport ::
    [chain.ledger.operator].filter (· ≠ .zero)

theorem mem_holders : account ∈ chain.holders ↔
    (∃ part, account = chain.owner part) ∨ account = chain.config.transport ∨
      account = chain.ledger.operator ∧ account ≠ .zero := by
  unfold holders
  simp only [List.mem_cons,List.mem_filter,List.not_mem_nil,or_false,decide_eq_true_eq]
  constructor
  · intro parts
    rcases parts with owns | owns | owns | relays | operates
    · exact .inl ⟨.ledger,owns⟩
    · exact .inl ⟨.escrows,owns⟩
    · exact .inl ⟨.channels,owns⟩
    · exact .inr (.inl relays)
    · exact .inr (.inr operates)
  · intro parts
    rcases parts with ⟨part,owns⟩ | relays | operates
    · cases part with
      | ledger => exact .inl owns
      | escrows => exact .inr (.inl owns)
      | channels => exact .inr (.inr (.inl owns))
    · exact .inr (.inr (.inr (.inl relays)))
    · exact .inr (.inr (.inr (.inr operates)))

theorem holders_unmoved : Unmoved holders := by
  intro chain ledger outbound same
  have owner : ledger.owner = chain.ledger.owner := congrArg Prod.fst same
  have operator : ledger.operator = chain.ledger.operator := congrArg Prod.snd same
  simp only [holders,owner,operator]

def entitled? (chain : Chain) : Request → Option Address
  | .setOperator .. => some chain.ledger.owner
  | .handOver part .. => some (chain.owner part)
  | .setEscrow .. | .setDerivedEscrow .. => some chain.escrows.owner
  | .bindPort .. | .openChannel .. => some chain.channels.owner
  | .mint .. | .burn .. | .transfer .. => if chain.ledger.operator = .zero then none else some chain.ledger.operator
  | .receive .. | .acknowledge .. | .timeout .. => some chain.config.transport
  | .send .. | .restart _ => none

theorem entitled_holds (entitled : chain.entitled? request = some account) : account ∈ chain.holders := by
  rw [mem_holders]
  cases request with
  | setOperator => exact .inl ⟨.ledger,(Option.some.inj entitled).symm⟩
  | handOver part => exact .inl ⟨part,(Option.some.inj entitled).symm⟩
  | setEscrow | setDerivedEscrow => exact .inl ⟨.escrows,(Option.some.inj entitled).symm⟩
  | bindPort | openChannel => exact .inl ⟨.channels,(Option.some.inj entitled).symm⟩
  | mint | burn | transfer =>
    simp only [entitled?] at entitled
    split at entitled
    · cases entitled
    · rename_i set
      cases entitled
      exact .inr (.inr ⟨rfl,set⟩)
  | receive | acknowledge | timeout => exact .inr (.inl (Option.some.inj entitled).symm)
  | send | restart => cases entitled

def appoints? (chain : Chain) : Request → Option Address
  | .setOperator caller operator => if caller = chain.ledger.owner ∧ operator ≠ .zero then some operator else none
  | .handOver part caller newOwner => if caller = chain.owner part then some newOwner else none
  | .restart config => some config.transport
  | _ => none

theorem receipt_unauthorized {caller : Address} {packet : Packet} (stranger : caller ≠ chain.config.transport) :
    chain.receipt caller packet = .error (.unauthorized caller .transport) := by
  simp only [receipt,fromTransport,Guard.authorized,if_neg stranger]
  rfl

end Chain

theorem EscrowRegistry.set_owner (caller : Address) (channel : String) (account : Address) :
    Call.Keeps EscrowRegistry.owner (set caller channel account) := Request.owned_keeps _ fun _ => rfl

theorem EscrowRegistry.setDerived_owner (caller : Address) (place : ChannelEnd) :
    Call.Keeps EscrowRegistry.owner (setDerived caller place) :=
  (set_owner caller place.channel _).bind fun _ => Call.keeps_pure _

theorem ChannelRegistry.bindPort_owner (caller : Address) (port : String) :
    Call.Keeps ChannelRegistry.owner (bindPort caller port) := Request.owned_keeps _ fun _ => rfl

theorem ChannelRegistry.openChannel_owner (caller : Address) (place peer : ChannelEnd) :
    Call.Keeps ChannelRegistry.owner (openChannel caller place peer) := Request.owned_keeps _ fun _ => rfl

theorem Ledger.operator_unauthorized {ledger : Ledger} {caller : Address}
    (stranger : (if ledger.operator = .zero then none else some ledger.operator) ≠ some caller) :
    ledger.authorizeOperator caller = .error (.unauthorized caller .operator) := by
  unfold authorizeOperator
  split
  · rfl
  · rename_i set
    rw [if_neg set] at stranger
    exact if_neg fun same => stranger (congrArg some same.symm)

namespace Host
open Call
variable {host next one two : Host} {request : Request} {reply : Reply} {account caller : Address} {role : Role}
  {outsider : Address → Bool} {requests : List Request}

theorem onChain_stops {α : Type} {error : TransferError} {call : Call Chain α} (stops : Stops error call host.chain) :
    Stops error (onChain call) host := stops.within

theorem observed_stops {α : Type} {error : TransferError} {entry : EntryPoint} {success : α → List Series}
    {failure : TransferError → List Series} {call : Call Host α} (stops : Stops error call host) :
    Stops error (observed entry success failure call) host := by
  obtain ⟨middle,failed⟩ := stops
  have refused : ∃ last, observed entry success failure call host = .error error last ∧ last.chain = middle.chain :=
    observed_error middle failed
  obtain ⟨last,ran,_⟩ := refused
  exact ⟨last,ran⟩

theorem step_unauthorized (reserved : request.role? = some role) (asked : request.caller? = some caller)
    (stranger : host.chain.entitled? request ≠ some caller) :
    (host.step request).1 = .error (.unauthorized caller role) := by
  have refused : ∀ {expected : Address}, some expected ≠ some caller → ∀ role,
      Guard.authorized caller expected role = .error (.unauthorized caller role) :=
    fun other role => if_neg fun same => other (congrArg some same.symm)
  have stops : Stops (.unauthorized caller role) request.perform host := by
    cases request with
    | send | restart => cases reserved
    | setOperator | setEscrow | bindPort | openChannel =>
      cases reserved
      cases asked
      refine (onChain_stops (Stops.within ?_)).bind
      exact stops_check (refused stranger _)
    | setDerivedEscrow =>
      cases reserved
      cases asked
      refine (onChain_stops (Stops.within (Stops.bind ?_))).map _
      exact stops_check (refused stranger _)
    | handOver part =>
      cases reserved
      cases asked
      refine (onChain_stops ?_).bind
      cases part with
      | ledger | escrows | channels =>
        apply Stops.within
        exact stops_check (refused stranger _)
    | mint | burn | transfer =>
      cases reserved
      cases asked
      refine (onChain_stops (Stops.within ?_)).map _
      exact stops_check (Ledger.operator_unauthorized stranger)
    | receive =>
      cases reserved
      cases asked
      have other := fun same => stranger (congrArg some (Eq.symm same))
      exact (observed_stops (onChain_stops (stops_check (Chain.receipt_unauthorized other)))).map _
    | acknowledge | timeout =>
      cases reserved
      cases asked
      exact (observed_stops (stops_check (refused stranger _))).map _
  obtain ⟨next,failed⟩ := stops
  unfold step
  rw [failed]

theorem onEscrows_holders {α : Type} {call : Call EscrowRegistry α} (keeps : Keeps EscrowRegistry.owner call) :
    Keeps (fun host => host.chain.holders) (onChain (Chain.onEscrows call)) :=
  onChain_keeps (keeps.inside fun chain escrows same => by simp only [Chain.holders,same])

theorem onChannels_holders {α : Type} {call : Call ChannelRegistry α} (keeps : Keeps ChannelRegistry.owner call) :
    Keeps (fun host => host.chain.holders) (onChain (Chain.onChannels call)) :=
  onChain_keeps (keeps.inside fun chain channels same => by simp only [Chain.holders,same])

theorem setOperator_holders {caller operator : Address}
    (answered : (Request.setOperator caller operator).perform host = .ok reply next)
    (holds : account ∈ next.chain.holders) :
    account ∈ host.chain.holders ∨ host.chain.appoints? (.setOperator caller operator) = some account := by
  obtain ⟨owned,same⟩ := Request.owned_ok answered
  rw [same,Chain.mem_holders] at holds
  rw [Chain.mem_holders]
  rcases holds with ⟨part,owns⟩ | relays | ⟨operates,somebody⟩
  · exact .inl (.inl ⟨part,by cases part <;> exact owns⟩)
  · exact .inl (.inr (.inl relays))
  · cases operates
    exact .inr (if_pos ⟨owned,somebody⟩)

theorem handOver_owner {part : Part} {caller newOwner : Address}
    (answered : (Request.handOver part caller newOwner).perform host = .ok reply next) (place : Part) :
    caller = host.chain.owner part ∧ next.chain.config = host.chain.config ∧
      next.chain.ledger.operator = host.chain.ledger.operator ∧
      next.chain.owner place = if place = part then newOwner else host.chain.owner place := by
  cases part with
  | ledger | escrows | channels =>
    obtain ⟨owned,same⟩ := Request.owned_ok answered
    rw [same]
    cases place <;> exact ⟨owned,rfl,rfl,rfl⟩

theorem handOver_holders {part : Part} {caller newOwner : Address}
    (answered : (Request.handOver part caller newOwner).perform host = .ok reply next)
    (holds : account ∈ next.chain.holders) :
    account ∈ host.chain.holders ∨ host.chain.appoints? (.handOver part caller newOwner) = some account := by
  obtain ⟨owned,config,operator,_⟩ := handOver_owner answered part
  rw [Chain.mem_holders,config,operator] at holds
  rw [Chain.mem_holders]
  rcases holds with ⟨place,owns⟩ | relays | operates
  · obtain ⟨_,_,_,handed⟩ := handOver_owner answered place
    rw [handed] at owns
    split at owns
    · exact .inr (owns ▸ if_pos owned)
    · exact .inl (.inl ⟨place,owns⟩)
  · exact .inl (.inr (.inl relays))
  · exact .inl (.inr (.inr operates))

theorem restart_holders {config : Config} (holds : account ∈ (host.chain.restart config).holders) :
    account ∈ host.chain.holders ∨ host.chain.appoints? (.restart config) = some account := by
  rw [Chain.mem_holders] at holds ⊢
  rcases holds with ⟨part,owns⟩ | relays | operates
  · exact .inl (.inl ⟨part,by cases part <;> exact owns⟩)
  · exact .inr (congrArg some relays.symm)
  · exact .inl (.inr (.inr operates))

theorem perform_holders (answered : request.perform host = .ok reply next) (holds : account ∈ next.chain.holders) :
    account ∈ host.chain.holders ∨ host.chain.appoints? request = some account := by
  have steady : Keeps (fun host => host.chain.holders) request.perform →
      account ∈ host.chain.holders ∨ host.chain.appoints? request = some account := by
    intro keeps
    have kept : next.chain.holders = host.chain.holders := keeps.ok answered
    exact .inl (kept ▸ holds)
  cases request with
  | setOperator => exact setOperator_holders answered holds
  | handOver => exact handOver_holders answered holds
  | restart =>
    cases answered
    exact restart_holders holds
  | setEscrow => exact steady ((onEscrows_holders (EscrowRegistry.set_owner _ _ _)).bind fun _ => keeps_pure _)
  | setDerivedEscrow => exact steady ((onEscrows_holders (EscrowRegistry.setDerived_owner _ _)).map _)
  | bindPort => exact steady ((onChannels_holders (ChannelRegistry.bindPort_owner _ _)).bind fun _ => keeps_pure _)
  | openChannel =>
    exact steady ((onChannels_holders (ChannelRegistry.openChannel_owner _ _ _)).bind fun _ => keeps_pure _)
  | _ => exact steady (Request.perform_unmoved Chain.holders_unmoved rfl rfl)

theorem step_holders (holds : account ∈ (host.step request).2.chain.holders) :
    account ∈ host.chain.holders ∨ host.chain.appoints? request = some account := by
  unfold step at holds
  cases ran : request.perform host with
  | ok reply next =>
    rw [ran] at holds
    exact perform_holders ran holds
  | error error next =>
    rw [ran] at holds
    have same : next.chain = host.chain := Request.perform_traceless request host error next ran
    exact .inl (same ▸ holds)

-- No request goes by the counters: they are written and never read.
theorem onChain_follows {α : Type} (call : Call Chain α) : Follows Host.chain (onChain call) :=
  follows_within call fun _ _ => rfl

theorem count_follows (series : Series) : Follows Host.chain (count series) := follows_modify fun _ _ same => same

theorem observed_follows {α : Type} {entry : EntryPoint} {success : α → List Series}
    {failure : TransferError → List Series} {call : Call Host α} (follows : Follows Host.chain call) :
    Follows Host.chain (observed entry success failure call) := by
  have unseen : ∀ host, shown Host.chain (observed entry success failure call host) = shown Host.chain (call host) := by
    intro host
    unfold observed
    cases call host <;> rfl
  intro one two same
  rw [unseen,unseen]
  exact follows one two same

theorem refund_follows (trigger : Trigger) (packet : Packet) : Follows Host.chain (refund trigger packet) := by
  refine (onChain_follows _).bind fun answer => ?_
  obtain ⟨event,debit⟩ := answer
  exact (count_follows _).bind fun _ => follows_pure _

theorem acknowledge_follows (caller : Address) (packet : Packet) (bytes : Bytes) :
    Follows Host.chain (acknowledge caller packet bytes) := by
  refine observed_follows (Follows.got (fun one two same => by rw [same]) fun host => ?_)
  refine (follows_check _).bind fun _ => ?_
  cases Acknowledgement.read bytes with
  | success proof =>
    exact (onChain_follows _).bind fun _ => (count_follows _).bind fun _ => follows_pure _
  | failure reason =>
    exact (count_follows _).bind fun _ => (refund_follows _ _).bind fun _ => follows_pure _

theorem timeout_follows (caller : Address) (packet : Packet) : Follows Host.chain (timeout caller packet) := by
  refine observed_follows (Follows.got (fun one two same => by rw [same]) fun host => ?_)
  exact (follows_check _).bind fun _ => refund_follows _ _

theorem perform_follows (request : Request) : Follows Host.chain request.perform := by
  cases request with
  | setOperator | handOver | setEscrow | bindPort | openChannel =>
    exact (onChain_follows _).bind fun _ => follows_pure _
  | mint | burn | transfer | setDerivedEscrow => exact (onChain_follows _).map _
  | send | receive => exact (observed_follows (onChain_follows _)).map _
  | acknowledge => exact (acknowledge_follows _ _ _).map _
  | timeout => exact (timeout_follows _ _).map _
  | restart config =>
    refine (follows_modify fun one two same => ?_).bind fun _ => follows_pure _
    exact congrArg (Chain.restart config) same

theorem step_follows (same : one.chain = two.chain) (request : Request) :
    ((one.step request).1,(one.step request).2.chain) = ((two.step request).1,(two.step request).2.chain) := by
  have told : ∀ host : Host, ((host.step request).1,(host.step request).2.chain) =
      shown Host.chain (request.perform host) := by
    intro host
    unfold step
    cases request.perform host <;> rfl
  rw [told,told]
  exact perform_follows request one two same

theorem run_answers (host : Host) (requests : List Request) : (host.run requests).1.length = requests.length := by
  induction requests generalizing host with
  | nil => rfl
  | cons request rest ih =>
    rw [run_cons,List.length_cons,List.length_cons,ih]

theorem run_purged {purged : Request → Bool} (same : one.chain = two.chain)
    (refused : ∀ entry ∈ requests.zip (two.run requests).1, purged entry.1 = true → entry.2.isOk = false) :
    (one.run (requests.filter (!purged ·))).1 =
        ((requests.zip (two.run requests).1).filter fun entry => !purged entry.1).map Prod.snd ∧
      (one.run (requests.filter (!purged ·))).2.chain = (two.run requests).2.chain := by
  -- The two runs come apart in what they have counted, and in nothing else.
  induction requests generalizing one two with
  | nil => exact ⟨rfl,same⟩
  | cons request rest ih =>
    rw [run_cons two,List.zip_cons_cons] at refused
    rw [run_cons two,List.zip_cons_cons]
    have later := fun entry present => refused entry (List.mem_cons_of_mem _ present)
    cases purges : purged request with
    | true =>
      have idle : (two.step request).2.chain = two.chain := by
        have stopped := refused _ List.mem_cons_self purges
        cases stepped : two.step request with
        | mk answer next =>
          cases answer with
          | ok reply => simp [stepped,Except.isOk,Except.toBool] at stopped
          | error error => exact step_error stepped
      rw [List.filter_cons_of_neg (by simp [purges]),List.filter_cons_of_neg (by simp [purges])]
      exact ih (same.trans idle.symm) later
    | false =>
      obtain ⟨answered,alike⟩ := Prod.mk.inj (step_follows same request)
      obtain ⟨answers,last⟩ := ih alike later
      rw [List.filter_cons_of_pos (by simp [purges]),List.filter_cons_of_pos (by simp [purges]),run_cons]
      exact ⟨by rw [List.map_cons,answered,answers],last⟩

def appointed : Host → List Request → List Address
  | _,[] => []
  | host,request :: rest => (host.chain.appoints? request).toList ++ appointed (host.step request).2 rest

theorem step_intruder (strangers : ∀ account ∈ host.chain.holders, outsider account = false)
    (intrudes : request.intrudes outsider = true) :
    ∃ role caller, request.role? = some role ∧ request.caller? = some caller ∧
      (host.step request).1 = .error (.unauthorized caller role) := by
  obtain ⟨role,caller,reserved,asked,outside⟩ := Request.intrudes_exact.mp intrudes
  refine ⟨role,caller,reserved,asked,step_unauthorized reserved asked ?_⟩
  intro entitled
  rw [strangers caller (Chain.entitled_holds entitled)] at outside
  cases outside

theorem run_intruders (strangers : ∀ account ∈ host.chain.holders ++ host.appointed requests, outsider account = false) :
    ∀ entry ∈ requests.zip (host.run requests).1, entry.1.intrudes outsider = true →
      ∃ role caller, entry.1.role? = some role ∧ entry.1.caller? = some caller ∧
        entry.2 = .error (.unauthorized caller role) := by
  induction requests generalizing host with
  | nil => exact fun entry present => nomatch present
  | cons request rest ih =>
    intro entry present intrudes
    rw [run_cons,List.zip_cons_cons] at present
    rcases List.mem_cons.mp present with rfl | later
    · exact step_intruder (fun account holds => strangers account (List.mem_append_left _ holds)) intrudes
    · refine ih ?_ entry later intrudes
      intro account holds
      apply strangers
      rw [appointed,List.mem_append,List.mem_append,Option.mem_toList]
      rcases List.mem_append.mp holds with stands | appointed
      · exact (step_holders stands).imp id Or.inl
      · exact .inr (.inr appointed)

-- The zero address may be an outsider as long as it is not an owner, and so may the
-- application's own account. Whom a report names as its relayer is no part of a request:
-- only the log tells it.
theorem outsiders_powerless (config : Config) (identity owner : Address) (surroundings : Surroundings)
    (counters : Counters) (requests : List Request) (outsider : Address → Bool)
    (start : outsider owner = false ∧ outsider config.transport = false)
    (unappointed : ∀ account ∈
      appointed ⟨.new config identity owner surroundings,counters⟩ requests, outsider account = false) :
    let host : Host := ⟨.new config identity owner surroundings,counters⟩
    let entries := requests.zip (host.run requests).1
    let others := requests.filter (!·.intrudes outsider)
    (host.run requests).1.length = requests.length ∧
      (∀ entry ∈ entries, entry.1.intrudes outsider = true →
        ∃ role caller, entry.1.role? = some role ∧ entry.1.caller? = some caller ∧
          entry.2 = .error (.unauthorized caller role)) ∧
      (host.run others).1 = (entries.filter fun entry => !entry.1.intrudes outsider).map Prod.snd ∧
      (host.run others).2.chain = (host.run requests).2.chain := by
  intro host entries others
  have strangers : ∀ account ∈ host.chain.holders ++ host.appointed requests, outsider account = false := by
    intro account holds
    rcases List.mem_append.mp holds with stands | appointed
    · rcases Chain.mem_holders.mp stands with ⟨part,rfl⟩ | rfl | ⟨rfl,somebody⟩
      · cases part <;> exact start.1
      · exact start.2
      · exact absurd rfl somebody
    · exact unappointed account appointed
  have refused := run_intruders strangers
  refine ⟨run_answers host requests,refused,run_purged rfl ?_⟩
  intro entry present intrudes
  obtain ⟨role,caller,_,_,answer⟩ := refused entry present intrudes
  rw [answer]
  rfl

-- The zero address tries to mint while there is no operator, and a guest to take over
-- both before and after all is set up; what the guest sends goes through.
def attempts : List Request :=
  .mint .zero guest "stone" (stones 9) :: .setOperator guest guest :: opening ++
    [.handOver .ledger guest guest,delivery 4,.timeout guest reported,.bindPort guest "harbour"]

def stranger (account : Address) : Bool := account != relay

theorem outsiders_powerless_attempts :
    (stranger relay = false ∧ stranger relayed.chain.config.transport = false) ∧
      (∀ account ∈ appointed relayed attempts, stranger account = false) ∧
      stranger .zero = true ∧ attempts.countP (·.intrudes stranger) = 5 ∧
      (∀ entry ∈ attempts.zip (relayed.run attempts).1, entry.1.intrudes stranger = true → entry.2.isOk = false) ∧
      (relayed.run (opening ++ [delivery 4])).2.chain = (relayed.run attempts).2.chain := by
  have start : stranger relay = false ∧ stranger relayed.chain.config.transport = false := by decide
  have facts : (∀ account ∈ appointed relayed attempts, stranger account = false) ∧ stranger .zero = true ∧
      attempts.countP (·.intrudes stranger) = 5 ∧
      attempts.filter (!·.intrudes stranger) = opening ++ [delivery 4] := by decide +kernel
  obtain ⟨unappointed,outside,count,others⟩ := facts
  obtain ⟨_,refused,_,same⟩ :=
    outsiders_powerless (.new relay) relay relay .plain .none attempts stranger start unappointed
  rw [others] at same
  refine ⟨start,unappointed,outside,count,?_,same⟩
  intro entry present intrudes
  obtain ⟨role,caller,_,_,answer⟩ := refused entry present intrudes
  rw [answer]
  rfl

end Host
end TokenTransfer
