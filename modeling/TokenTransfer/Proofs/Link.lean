import TokenTransfer.Proofs.Acknowledgements
import TokenTransfer.Proofs.Answers

namespace TokenTransfer

-- Two chains joined by one channel, with every packet that either of them sent
-- over it, and whoever carries those packets and their outcomes between the two.
inductive Side where
  | left
  | right
deriving DecidableEq

def Side.other : Side → Side
  | .left => .right
  | .right => .left

@[simp] theorem Side.other_other (side : Side) : side.other.other = side := by
  cases side <;> rfl

theorem Side.ne_other (side : Side) : side ≠ side.other := by
  cases side <;> decide

theorem Side.eq_other {side place : Side} (different : side ≠ place) : side = place.other := by
  cases side <;> cases place <;> first | rfl | exact absurd rfl different

inductive Fate where
  | underway
  | lapsed
  | delivered (outcome : Except TransferError Reply)

inductive Closing where
  | pending
  | confirmed
  | refunded
deriving DecidableEq

structure Journey where
  origin : Side
  caller : Address
  order : TransferOrder
  packet : Packet
  fate : Fate
  closing : Closing

structure Link where
  left : Host
  right : Host
  journeys : List Journey

inductive Turn where
  | send (side : Side) (caller : Address) (order : TransferOrder)
  | deliver (caller : Address) (index : Nat)
  | handBack (caller : Address) (index : Nat)
  | expire (caller : Address) (index : Nat)

def Closing.next (closing : Closing) : Except TransferError Reply → Closing
  | .ok .settled => .confirmed
  | .ok (.moved _) => .refunded
  | _ => closing

namespace Link

def host (link : Link) : Side → Host
  | .left => link.left
  | .right => link.right

def chain (link : Link) (side : Side) : Chain := (link.host side).chain

def put (link : Link) (host : Host) : Side → Link
  | .left => {link with left := host}
  | .right => {link with right := host}

def ask (link : Link) (side : Side) (request : Request) : Except TransferError Reply × Link :=
  let (answer,next) := (link.host side).step request
  (answer,link.put next side)

def mark (link : Link) (index : Nat) (journey : Journey) : Link :=
  {link with journeys := link.journeys.set index journey}

def depart (link : Link) (side : Side) (caller : Address) (order : TransferOrder) : Link :=
  match link.ask side (.send caller order) with
  | (.ok (.sent sent),next) =>
    {next with journeys := next.journeys ++ [⟨side,caller,order,sent.packet,.underway,.pending⟩]}
  | (_,next) => next

def deliver (link : Link) (caller : Address) (index : Nat) (journey : Journey) : Link :=
  match journey.fate with
  | .underway =>
    let (answer,next) := link.ask journey.origin.other (.receive caller journey.packet)
    next.mark index {journey with fate := .delivered answer}
  | _ => link

-- An outcome may be handed back over and over, and so may a packet be given up
-- that was never delivered.
def handBack (link : Link) (caller : Address) (index : Nat) (journey : Journey) : Link :=
  match journey.fate with
  | .delivered outcome =>
    let bytes := (Acknowledgement.ofOutcome outcome).write
    let (answer,next) := link.ask journey.origin (.acknowledge caller journey.packet bytes)
    next.mark index {journey with closing := journey.closing.next answer}
  | _ => link

def expire (link : Link) (caller : Address) (index : Nat) (journey : Journey) : Link :=
  match journey.fate with
  | .delivered _ => link
  | _ =>
    let (answer,next) := link.ask journey.origin (.timeout caller journey.packet)
    next.mark index {journey with fate := .lapsed, closing := journey.closing.next answer}

def along (link : Link) (index : Nat) (go : Journey → Link) : Link :=
  match link.journeys[index]? with
  | some journey => go journey
  | none => link

def play (link : Link) : Turn → Link
  | .send side caller order => link.depart side caller order
  | .deliver caller index => link.along index (link.deliver caller index)
  | .handBack caller index => link.along index (link.handBack caller index)
  | .expire caller index => link.along index (link.expire caller index)

def run (link : Link) (turns : List Turn) : Link := turns.foldl play link

end Link

def Journey.arrived (journey : Journey) : Bool :=
  match journey.fate with
  | .delivered (.ok _) => true
  | _ => false

namespace Link
variable {link next : Link} {side : Side} {caller : Address} {order : TransferOrder} {journey : Journey} {index : Nat}

@[simp] theorem chain_put (host : Host) (side : Side) : (link.put host side).chain side = host.chain := by
  cases side <;> rfl

@[simp] theorem chain_put_other (host : Host) (side : Side) :
    (link.put host side).chain side.other = link.chain side.other := by
  cases side <;> rfl

@[simp] theorem journeys_put (host : Host) (side : Side) : (link.put host side).journeys = link.journeys := by
  cases side <;> rfl

@[simp] theorem chain_mark (side : Side) : (link.mark index journey).chain side = link.chain side := by
  cases side <;> rfl

inductive Move (link : Link) (turn : Turn) (next : Link) : Prop
  | stay (still : ∀ side, next.chain side = link.chain side) (kept : next.journeys = link.journeys)
  | fail (front back : List Journey) (journey : Journey) (fate : Fate) (still : ∀ side, next.chain side = link.chain side)
      (stood : link.journeys = front ++ journey :: back)
      (stands : next.journeys = front ++ {journey with fate} :: back)
      (away : journey.arrived = false) (out : ({journey with fate} : Journey).arrived = false) (ended : fate ≠ .underway)
  | depart (side : Side) (caller : Address) (order : TransferOrder) (sent : SentPacket)
      (asked : turn = .send side caller order)
      (moved : Chain.send caller order (link.chain side) = .ok sent (next.chain side))
      (still : next.chain side.other = link.chain side.other)
      (stands : next.journeys = link.journeys ++ [⟨side,caller,order,sent.packet,.underway,.pending⟩])
  | arrive (front back : List Journey) (journey : Journey) (caller : Address) (event : TransferEvent)
      (moved : Chain.receive caller journey.packet (link.chain journey.origin.other) =
        .ok event (next.chain journey.origin.other))
      (still : next.chain journey.origin = link.chain journey.origin)
      (stood : link.journeys = front ++ journey :: back)
      (stands : next.journeys = front ++ {journey with fate := .delivered (.ok (.moved event))} :: back)
      (underway : journey.fate = .underway)
  | confirm (front back : List Journey) (journey : Journey)
      (moved : Chain.confirm journey.packet (link.chain journey.origin) = .ok () (next.chain journey.origin))
      (still : next.chain journey.origin.other = link.chain journey.origin.other)
      (stood : link.journeys = front ++ journey :: back)
      (stands : next.journeys = front ++ {journey with closing := .confirmed} :: back)
      (ended : journey.fate ≠ .underway)
  | refund (front back : List Journey) (journey : Journey) (fate : Fate) (event : TransferEvent) (debit : Debit)
      (moved : Chain.refund journey.packet (link.chain journey.origin) = .ok (event,debit) (next.chain journey.origin))
      (still : next.chain journey.origin.other = link.chain journey.origin.other)
      (stood : link.journeys = front ++ journey :: back)
      (stands : next.journeys = front ++ {journey with fate := fate, closing := .refunded} :: back)
      (away : journey.arrived = false) (out : ({journey with fate} : Journey).arrived = false) (ended : fate ≠ .underway)

theorem split_set {journeys : List Journey} (found : journeys[index]? = some journey) :
    ∃ front back, journeys = front ++ journey :: back ∧
      ∀ marked, journeys.set index marked = front ++ marked :: back := by
  obtain ⟨inside,here⟩ := List.getElem?_eq_some_iff.mp found
  refine ⟨journeys.take index,journeys.drop (index+1),?_,?_⟩
  · rw [← here,List.getElem_cons_drop,List.take_append_drop]
  · intro marked
    rw [List.set_eq_take_append_cons_drop,if_pos inside]

section marked
variable {front back : List Journey} {marked other : Journey}

theorem mem_split (stood : link.journeys = front ++ journey :: back) :
    other ∈ link.journeys ↔ other = journey ∨ other ∈ front ++ back := by
  rw [stood,List.perm_middle.mem_iff,List.mem_cons]

theorem mem_marked (stood : link.journeys = front ++ journey :: back) : journey ∈ link.journeys :=
  (mem_split stood).mpr (.inl rfl)

theorem mem_remarked (stood : link.journeys = front ++ journey :: back) (stands : next.journeys = front ++ marked :: back)
    (present : other ∈ next.journeys) : other = marked ∨ other ∈ link.journeys :=
  ((mem_split stands).mp present).imp_right fun rest => (mem_split stood).mpr (.inr rest)

end marked

theorem chain_side (same : next.chain side = link.chain side) (other : next.chain side.other = link.chain side.other)
    (asked : Side) : next.chain asked = link.chain asked := by
  cases side <;> cases asked <;> assumption

theorem put_still (host : Host) (kept : host.chain = link.chain side) (asked : Side) :
    (link.put host side).chain asked = link.chain asked :=
  chain_side ((chain_put host side).trans kept) (chain_put_other host side) asked

theorem depart_moves (link : Link) (side : Side) (caller : Address) (order : TransferOrder) :
    Move link (.send side caller order) (link.depart side caller order) := by
  unfold depart ask
  cases stepped : (link.host side).step (.send caller order) with
  | mk answer host =>
    cases answer with
    | error error => exact .stay (put_still host (Host.step_error stepped)) (journeys_put host side)
    | ok reply =>
      obtain ⟨sent,rfl,moved⟩ := Host.step_send stepped
      refine .depart side caller order sent rfl ?_ (chain_put_other host side) (congrArg (· ++ _) (journeys_put host side))
      exact moved.trans (congrArg _ (chain_put host side).symm)

theorem deliver_moves (caller : Address) (found : link.journeys[index]? = some journey) :
    Move link (.deliver caller index) (link.deliver caller index journey) := by
  obtain ⟨front,back,stood,marks⟩ := split_set found
  unfold deliver ask
  cases underway : journey.fate with
  | lapsed | delivered => exact .stay (fun _ => rfl) rfl
  | underway =>
    have away : journey.arrived = false := by simp [Journey.arrived,underway]
    cases stepped : (link.host journey.origin.other).step (.receive caller journey.packet) with
    | mk answer host =>
      have stands : ∀ marked, ((link.put host journey.origin.other).mark index marked).journeys =
          front ++ marked :: back := fun marked => by
        rw [mark,journeys_put]
        exact marks marked
      cases answer with
      | error error =>
        refine .fail front back journey _ (fun side => ?_) stood (stands _) away rfl (fun same => by cases same)
        exact (chain_mark side).trans (put_still host (Host.step_error stepped) side)
      | ok reply =>
        obtain ⟨event,rfl,moved⟩ := Host.step_receive stepped
        refine .arrive front back journey caller event ?_ ?_ stood (stands _) underway
        · exact moved.trans (congrArg _ (chain_put host _).symm)
        · have other : (link.put host journey.origin.other).chain journey.origin.other.other = _ := chain_put_other _ _
          rwa [Side.other_other] at other

theorem handBack_moves (caller : Address) (found : link.journeys[index]? = some journey) :
    Move link (.handBack caller index) (link.handBack caller index journey) := by
  obtain ⟨front,back,stood,marks⟩ := split_set found
  unfold handBack ask
  obtain ⟨origin,sender,order,packet,fate,closing⟩ := journey
  cases fate with
  | underway | lapsed => exact .stay (fun _ => rfl) rfl
  | delivered outcome =>
    have ended : Fate.delivered outcome ≠ .underway := fun same => by cases same
    let journey : Journey := ⟨origin,sender,order,packet,.delivered outcome,closing⟩
    simp only
    cases stepped : (link.host origin).step (.acknowledge caller packet (Acknowledgement.ofOutcome outcome).write) with
    | mk answer host =>
      have stands : ∀ marked, ((link.put host origin).mark index marked).journeys = front ++ marked :: back :=
        fun marked => by
          rw [mark,journeys_put]
          exact marks marked
      cases answer with
      | error error =>
        refine .stay (fun side => ?_) ((stands _).trans stood.symm)
        exact (chain_mark side).trans (put_still host (Host.step_error stepped) side)
      | ok reply =>
        rcases Host.step_acknowledge stepped with ⟨_,rfl,moved⟩ | ⟨failed,event,debit,rfl,moved⟩
        · refine .confirm front back journey ?_ (chain_put_other host _) stood (stands _) ended
          exact moved.trans (congrArg _ (chain_put host _).symm)
        · -- A success never reads as a failure, so what is refunded did not arrive.
          have away : journey.arrived = false := by
            cases outcome with
            | error error => rfl
            | ok reply => cases (Acknowledgement.outcome_success (.ok reply)).symm.trans failed
          refine .refund front back journey journey.fate event debit ?_ (chain_put_other host _) stood (stands _)
            away away ended
          exact moved.trans (congrArg _ (chain_put host _).symm)

theorem expire_moves (caller : Address) (found : link.journeys[index]? = some journey) :
    Move link (.expire caller index) (link.expire caller index journey) := by
  obtain ⟨front,back,stood,marks⟩ := split_set found
  have lapses : journey.arrived = false →
      Move link (.expire caller index) (((link.ask journey.origin (.timeout caller journey.packet)).2).mark index {journey with
        fate := .lapsed
        closing := journey.closing.next (link.ask journey.origin (.timeout caller journey.packet)).1}) := by
    intro away
    unfold ask
    cases stepped : (link.host journey.origin).step (.timeout caller journey.packet) with
    | mk answer host =>
      have stands : ∀ marked, ((link.put host journey.origin).mark index marked).journeys =
          front ++ marked :: back := fun marked => by
        rw [mark,journeys_put]
        exact marks marked
      cases answer with
      | error error =>
        refine .fail front back journey .lapsed (fun side => ?_) stood (stands _) away rfl (fun same => by cases same)
        exact (chain_mark side).trans (put_still host (Host.step_error stepped) side)
      | ok reply =>
        obtain ⟨event,debit,rfl,moved⟩ := Host.step_timeout stepped
        refine .refund front back journey .lapsed event debit ?_ (chain_put_other host _) stood (stands _)
          away rfl (fun same => by cases same)
        exact moved.trans (congrArg _ (chain_put host _).symm)
  unfold expire
  cases fate : journey.fate with
  | delivered => exact .stay (fun _ => rfl) rfl
  | underway | lapsed => exact lapses (by simp [Journey.arrived,fate])

theorem play_moves (link : Link) (turn : Turn) : Move link turn (link.play turn) := by
  have along : ∀ turn index (go : Journey → Link),
      (∀ journey, link.journeys[index]? = some journey → Move link turn (go journey)) →
      Move link turn (link.along index go) := by
    intro turn index go moves
    unfold Link.along
    cases found : link.journeys[index]? with
    | none => exact .stay (fun _ => rfl) rfl
    | some journey => exact moves journey found
  cases turn with
  | send side caller order => exact depart_moves link side caller order
  | deliver caller index => exact along _ _ _ fun _ => deliver_moves caller
  | handBack caller index => exact along _ _ _ fun _ => handBack_moves caller
  | expire caller index => exact along _ _ _ fun _ => expire_moves caller

end Link
end TokenTransfer
