import Mathlib.Data.List.Nodup
import TokenTransfer.Proofs.Route
import TokenTransfer.Proofs.SettledOnce

namespace TokenTransfer

theorem Chain.receive_outbound {chain next : Chain} {caller : Address} {packet : Packet} {event : TransferEvent}
    (moved : Chain.receive caller packet chain = .ok event next) : next.outbound = chain.outbound := by
  obtain ⟨_,_,paid⟩ := Chain.receive_exact.mp moved
  obtain ⟨_,rfl,_⟩ := Chain.pay_parts paid
  rfl

namespace Link

def sent (link : Link) (side : Side) : Nat := link.journeys.countP (·.origin = side)

structure Modest (link : Link) : Prop where
  short : ∀ journey ∈ link.journeys, journey.packet.data.length < UInt32.size
  few : ∀ side, link.sent side < UInt64.size - 2

end Link

def Journey.number (journey : Journey) : Side × UInt64 := (journey.origin,journey.packet.sequence)

namespace Route
open SettledWindow Denomination
variable {route : Route} {link next : Link} {turn : Turn}

def Allows (route : Route) : Turn → Prop
  | .send side caller order => order.source = route.ends side ∧ caller ≠ route.escrows side ∧
      Address.read? order.receiver ≠ some (route.escrows side.other)
  | _ => True

structure Addressed (route : Route) (journey : Journey) : Prop where
  source : journey.packet.source = route.ends journey.origin
  destination : journey.packet.destination = route.ends journey.origin.other
  written : Payload.encode route.encoding (Chain.orderData journey.caller journey.order) = .ok journey.packet.data
  outside : journey.caller ≠ route.escrows journey.origin
  beyond : Address.read? journey.order.receiver ≠ some (route.escrows journey.origin.other)

-- What the sender's books hold on it: how to refund it until it closes, and
-- that it is settled from then on.
structure Entered (route : Route) (outbound : Outbound) (journey : Journey) : Prop where
  pending : journey.closing = .pending → outbound.inFlight.find journey.packet.id =
    some ⟨journey.caller,journey.order.denom,journey.order.amount,route.debit journey.origin journey.order.denom⟩
  settled : journey.closing ≠ .pending →
    outbound.isSettled (route.ends journey.origin) journey.packet.sequence = true

structure Books (route : Route) (link : Link) : Prop where
  serves : ∀ side, route.Serves side (link.chain side)
  counted : ∀ side, ((link.chain side).outbound.next (route.ends side)).toNat = link.sent side + 1
  numbered : ∀ journey ∈ link.journeys, journey.packet.sequence.toNat ≤ link.sent journey.origin
  apart : (link.journeys.map Journey.number).Nodup
  addressed : ∀ journey ∈ link.journeys, route.Addressed journey
  entered : ∀ journey ∈ link.journeys, route.Entered (link.chain journey.origin).outbound journey
  waiting : ∀ journey ∈ link.journeys, journey.fate = .underway → journey.closing = .pending

theorem move_serves (serves : ∀ side, route.Serves side (link.chain side)) (moves : Link.Move link turn next)
    (side : Side) : route.Serves side (next.chain side) := by
  have unmoved := Chain.setting_unmoved
  have both : ∀ place : Side, (next.chain place).setting = (link.chain place).setting →
      next.chain place.other = link.chain place.other → route.Serves side (next.chain side) := by
    intro place kept still
    apply (serves side).setting
    have other := congrArg Chain.setting still
    cases place <;> cases side <;> assumption
  cases moves with
  | stay still kept => exact still side ▸ serves side
  | fail _ _ _ _ still => exact still side ▸ serves side
  | depart place caller order sent _ moved still => exact both place ((Chain.send_unmoved unmoved caller order).ok moved) still
  | arrive front back journey caller event moved still =>
    apply both journey.origin.other ((Chain.receive_unmoved unmoved caller journey.packet).ok moved)
    rwa [Side.other_other]
  | confirm front back journey moved still =>
    exact both journey.origin ((Chain.confirm_unmoved unmoved journey.packet).ok moved) still
  | refund front back journey fate event cost moved still =>
    exact both journey.origin ((Chain.refund_unmoved unmoved journey.packet).ok moved) still

section marked
variable {front back : List Journey} {journey marked : Journey}

theorem sent_marked (stood : link.journeys = front ++ journey :: back) (stands : next.journeys = front ++ marked :: back)
    (same : marked.number = journey.number) (side : Side) : next.sent side = link.sent side := by
  have origin : marked.origin = journey.origin := congrArg Prod.fst same
  unfold Link.sent
  rw [stood,stands,List.countP_append,List.countP_append,List.countP_cons,List.countP_cons,origin]

theorem numbers_marked (stood : link.journeys = front ++ journey :: back)
    (stands : next.journeys = front ++ marked :: back) (same : marked.number = journey.number) :
    next.journeys.map Journey.number = link.journeys.map Journey.number := by
  rw [stood,stands,List.map_append,List.map_append,List.map_cons,List.map_cons,same]

theorem others_marked (stood : link.journeys = front ++ journey :: back)
    (apart : (link.journeys.map Journey.number).Nodup) (stands : next.journeys = front ++ marked :: back)
    {other : Journey} (present : other ∈ next.journeys) :
    other = marked ∨ other ∈ link.journeys ∧ other.number ≠ journey.number := by
  rw [stood,List.map_append,List.map_cons] at apart
  have fresh := (List.nodup_cons.mp (List.nodup_middle.mp apart)).1
  rcases (Link.mem_split stands).mp present with same | rest
  · exact .inl same
  · refine .inr ⟨(Link.mem_split stood).mpr (.inr rest),fun same => fresh ?_⟩
    rw [← same,← List.map_append]
    exact List.mem_map_of_mem rest

theorem books_marked (books : route.Books link) (serves : ∀ side, route.Serves side (next.chain side))
    (stood : link.journeys = front ++ journey :: back) (stands : next.journeys = front ++ marked :: back)
    (same : marked.number = journey.number)
    (counts : ∀ side, (next.chain side).outbound.next (route.ends side) = (link.chain side).outbound.next (route.ends side))
    (addressed : route.Addressed marked) (entered : route.Entered (next.chain marked.origin).outbound marked)
    (waiting : marked.fate = .underway → marked.closing = .pending)
    (others : ∀ other ∈ link.journeys, other.number ≠ journey.number →
      route.Entered (next.chain other.origin).outbound other) : route.Books next := by
  have inside := Link.mem_marked stood
  refine ⟨serves,?_,?_,?_,?_,?_,?_⟩
  · intro side
    rw [counts,sent_marked stood stands same]
    exact books.counted side
  · intro other present
    rw [sent_marked stood stands same]
    rcases others_marked stood books.apart stands present with rfl | ⟨known,_⟩
    · have origin : other.origin = journey.origin := congrArg Prod.fst same
      have sequence : other.packet.sequence = journey.packet.sequence := congrArg Prod.snd same
      rw [origin,sequence]
      exact books.numbered journey inside
    · exact books.numbered other known
  · rw [numbers_marked stood stands same]
    exact books.apart
  · intro other present
    rcases others_marked stood books.apart stands present with rfl | ⟨known,_⟩
    · exact addressed
    · exact books.addressed other known
  · intro other present
    rcases others_marked stood books.apart stands present with rfl | ⟨known,different⟩
    · exact entered
    · exact others other known different
  · intro other present
    rcases others_marked stood books.apart stands present with rfl | ⟨known,_⟩
    · exact waiting
    · exact books.waiting other known

end marked

section settle
variable {journey : Journey} {outbound : Outbound}

theorem entered_settle {other : Journey} (entered : route.Entered outbound other)
    (different : other.packet.sequence ≠ journey.packet.sequence) (inner : Inner other.packet.sequence) :
    route.Entered (outbound.settle journey.packet) other := by
  refine ⟨?_,?_⟩
  · intro pending
    have apart : other.packet.id ≠ journey.packet.id := fun same => different (congrArg PacketId.sequence same)
    rw [Outbound.settle_find,if_neg apart]
    exact entered.pending pending
  · intro closed
    exact Outbound.settle_keeps inner (entered.settled closed)

theorem entered_settled {closing : Closing} {fate : Fate} (addressed : route.Addressed journey)
    (inner : Inner journey.packet.sequence) (closed : closing ≠ .pending) :
    route.Entered (outbound.settle journey.packet) {journey with fate := fate, closing := closing} := by
  refine ⟨fun pending => absurd pending closed,fun _ => ?_⟩
  have settled : (outbound.settle journey.packet).isSettled _ _ = true := Outbound.settle_settles inner
  rwa [addressed.source] at settled

end settle

theorem modest_inner (books : route.Books link) (modest : link.Modest) {journey : Journey}
    (present : journey ∈ link.journeys) : Inner journey.packet.sequence := by
  have low := books.numbered journey present
  have few := modest.few journey.origin
  show journey.packet.sequence.toNat + 1 < UInt64.size
  omega

theorem books_settled (books : route.Books link) (modest : link.Modest) {front back : List Journey} {journey : Journey}
    {fate : Fate} {closing : Closing} (serves : ∀ side, route.Serves side (next.chain side))
    (settles : (next.chain journey.origin).outbound = (link.chain journey.origin).outbound.settle journey.packet)
    (still : next.chain journey.origin.other = link.chain journey.origin.other)
    (stood : link.journeys = front ++ journey :: back)
    (stands : next.journeys = front ++ {journey with fate := fate, closing := closing} :: back)
    (closed : closing ≠ .pending) (ended : fate ≠ .underway) : route.Books next := by
  have inside := Link.mem_marked stood
  have addressed := books.addressed journey inside
  refine books_marked books serves stood stands rfl ?_ ?_ ?_ (fun underway => absurd underway ended) ?_
  · intro side
    by_cases here : side = journey.origin
    · rw [here,settles]
      rfl
    · rw [Side.eq_other here,still]
  · exact ⟨addressed.source,addressed.destination,addressed.written,addressed.outside,addressed.beyond⟩
  · show route.Entered (next.chain journey.origin).outbound _
    rw [settles]
    exact entered_settled addressed (modest_inner books modest inside) closed
  · intro other known different
    have entered := books.entered other known
    by_cases here : other.origin = journey.origin
    · rw [here] at entered ⊢
      rw [settles]
      refine entered_settle entered (fun same => different (Prod.ext here same)) (modest_inner books modest known)
    · rw [Side.eq_other here] at entered ⊢
      rwa [still]

theorem books_sent (books : route.Books link) {side : Side} {caller : Address} {order : TransferOrder}
    {sent : SentPacket} (serves : ∀ side, route.Serves side (next.chain side))
    (allowed : route.Allows (.send side caller order))
    (moved : Chain.send caller order (link.chain side) = .ok sent (next.chain side))
    (still : next.chain side.other = link.chain side.other)
    (stands : next.journeys = link.journeys ++ [⟨side,caller,order,sent.packet,.underway,.pending⟩])
    (modest : next.Modest) : route.Books next := by
  obtain ⟨departs,outside,beyond⟩ := allowed
  obtain ⟨source,destination,sequence,written,booked,_⟩ := send_parts (books.serves side) departs moved
  have counts : ∀ asked, next.sent asked = link.sent asked + if asked = side then 1 else 0 := by
    intro asked
    unfold Link.sent
    rw [stands,List.countP_append,List.countP_singleton]
    congr 1
    by_cases here : asked = side
    · simp [here]
    · simp [here,Ne.symm here]
  have number : sent.packet.sequence.toNat = link.sent side + 1 := by
    rw [sequence]
    exact books.counted side
  have few := modest.few side
  rw [counts,if_pos rfl] at few
  have inner : Inner sent.packet.sequence := by
    show sent.packet.sequence.toNat + 1 < UInt64.size
    omega
  -- The new number is above all that were given out on its side.
  have fresh : ∀ journey ∈ link.journeys, journey.origin = side → journey.packet.sequence ≠ sent.packet.sequence := by
    intro journey known here same
    have low := books.numbered journey known
    rw [here,same,number] at low
    omega
  refine ⟨serves,?_,?_,?_,?_,?_,?_⟩
  · intro asked
    rw [counts]
    by_cases here : asked = side
    · subst here
      rw [if_pos rfl,booked]
      rw [Outbound.send_next,source,if_pos rfl,Sequence.next_toNat inner,number]
    · rw [if_neg here,Side.eq_other here,still]
      exact books.counted side.other
  · intro journey present
    rw [counts]
    rw [stands] at present
    rcases List.mem_append.mp present with known | new
    · have low := books.numbered journey known
      omega
    · cases List.mem_singleton.mp new
      simp only [if_true]
      omega
  · rw [stands,List.map_append]
    refine List.nodup_append.mpr ⟨books.apart,List.nodup_singleton _,?_⟩
    intro number known new single same
    obtain ⟨journey,inside,rfl⟩ := List.mem_map.mp known
    rw [List.map_cons,List.map_nil,List.mem_singleton] at single
    rw [single] at same
    exact fresh journey inside (congrArg Prod.fst same) (congrArg Prod.snd same)
  · intro journey present
    rw [stands] at present
    rcases List.mem_append.mp present with known | new
    · exact books.addressed journey known
    · cases List.mem_singleton.mp new
      exact ⟨source,destination,written,outside,beyond⟩
  · intro journey present
    rw [stands] at present
    rcases List.mem_append.mp present with known | new
    · have entered := books.entered journey known
      by_cases here : journey.origin = side
      · rw [here] at entered ⊢
        rw [booked]
        refine ⟨?_,entered.settled⟩
        intro pending
        have apart : journey.packet.id ≠ sent.packet.id :=
          fun same => fresh journey known here (congrArg PacketId.sequence same)
        rw [Outbound.send_find,if_neg apart]
        exact entered.pending pending
      · rw [Side.eq_other here] at entered ⊢
        rwa [still]
    · cases List.mem_singleton.mp new
      refine ⟨fun _ => ?_,fun closed => absurd rfl closed⟩
      rw [booked]
      rw [Outbound.send_find,if_pos rfl]
  · intro journey present underway
    rw [stands] at present
    rcases List.mem_append.mp present with known | new
    · exact books.waiting journey known underway
    · cases List.mem_singleton.mp new
      rfl

theorem books_carried (books : route.Books link) {front back : List Journey} {journey : Journey} {fate : Fate}
    (serves : ∀ side, route.Serves side (next.chain side))
    (same : ∀ side, (next.chain side).outbound = (link.chain side).outbound)
    (stood : link.journeys = front ++ journey :: back) (stands : next.journeys = front ++ {journey with fate} :: back)
    (ended : fate ≠ .underway) : route.Books next := by
  have inside := Link.mem_marked stood
  have addressed := books.addressed journey inside
  have entered := books.entered journey inside
  refine books_marked books serves stood stands rfl (fun side => by rw [same]) ?_ ?_
    (fun underway => absurd underway ended) (fun other known _ => by rw [same]; exact books.entered other known)
  · exact ⟨addressed.source,addressed.destination,addressed.written,addressed.outside,addressed.beyond⟩
  · rw [same]
    exact ⟨entered.pending,entered.settled⟩

theorem books_stayed (books : route.Books link) (still : ∀ side, next.chain side = link.chain side)
    (kept : next.journeys = link.journeys) : route.Books next := by
  have sent : ∀ side, next.sent side = link.sent side := fun side => by
    unfold Link.sent
    rw [kept]
  refine ⟨fun side => still side ▸ books.serves side,?_,?_,kept ▸ books.apart,kept ▸ books.addressed,?_,kept ▸ books.waiting⟩
  · intro side
    rw [still,sent]
    exact books.counted side
  · intro journey present
    rw [sent]
    exact books.numbered journey (kept ▸ present)
  · intro journey present
    rw [still]
    exact books.entered journey (kept ▸ present)

theorem move_books (books : route.Books link) (allowed : route.Allows turn) (moves : Link.Move link turn next)
    (before : link.Modest) (modest : next.Modest) : route.Books next := by
  have serves := move_serves books.serves moves
  cases moves with
  | stay still kept => exact books_stayed books still kept
  | fail front back journey fate still stood stands away out ended =>
    exact books_carried books serves (fun side => congrArg Chain.outbound (still side)) stood stands ended
  | depart side caller order sent asked moved still stands =>
    subst asked
    exact books_sent books serves allowed moved still stands modest
  | arrive front back journey caller event moved still stood stands underway =>
    refine books_carried books serves (fun side => ?_) stood stands (fun same => by cases same)
    by_cases here : side = journey.origin
    · rw [here,still]
    · rw [Side.eq_other here]
      exact Chain.receive_outbound moved
  | confirm front back journey moved still stood stands ended =>
    obtain ⟨_,settled⟩ := Chain.confirm_exact.mp moved
    refine books_settled books before serves ?_ still stood stands (fun same => by cases same) ended
    rw [settled]
  | refund front back journey fate event cost moved still stood stands away out ended =>
    obtain ⟨_,entry,middle,_,paid,_,settled⟩ := Chain.refund_exact.mp moved
    obtain ⟨ledger,same,_⟩ := Chain.pay_parts paid
    refine books_settled books before serves ?_ still stood stands (fun same => by cases same) ended
    rw [settled,same]

end Route
end TokenTransfer
