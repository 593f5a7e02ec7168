import TokenTransfer.Proofs.LinkBooks

namespace TokenTransfer

namespace Link

def total (counts : Journey → Prop) [DecidablePred counts] : List Journey → Nat
  | [] => 0
  | journey :: later => Route.when (counts journey) journey.order.amount + total counts later

section total
variable {counts : Journey → Prop} [DecidablePred counts] {link next : Link} {front back : List Journey}
  {journey marked : Journey}

theorem total_append (earlier later : List Journey) :
    total counts (earlier ++ later) = total counts earlier + total counts later := by
  induction earlier with
  | nil => exact (Nat.zero_add _).symm
  | cons journey rest ih => rw [List.cons_append,total,ih,total,Nat.add_assoc]

theorem total_sent (journey : Journey) (earlier : List Journey) :
    total counts (earlier ++ [journey]) = total counts earlier + Route.when (counts journey) journey.order.amount := by
  rw [total_append,total]
  rfl

theorem total_none {journeys : List Journey} (never : ∀ journey, ¬counts journey) : total counts journeys = 0 := by
  induction journeys with
  | nil => rfl
  | cons journey rest ih => rw [total,Route.when_neg (never journey),ih]

theorem total_marked (counts : Journey → Prop) [DecidablePred counts] (stood : link.journeys = front ++ journey :: back)
    (stands : next.journeys = front ++ marked :: back) :
    total counts next.journeys + Route.when (counts journey) journey.order.amount =
      total counts link.journeys + Route.when (counts marked) marked.order.amount := by
  rw [stood,stands,total_append,total_append,total,total]
  omega

theorem total_kept (stood : link.journeys = front ++ journey :: back) (stands : next.journeys = front ++ marked :: back)
    (order : marked.order = journey.order) (same : counts journey ↔ counts marked) :
    total counts next.journeys = total counts link.journeys := by
  have moved := total_marked counts stood stands
  rw [Route.when_iff same,order] at moved
  omega

theorem total_gained {gain : Prop} [Decidable gain] (stood : link.journeys = front ++ journey :: back)
    (stands : next.journeys = front ++ marked :: back) (order : marked.order = journey.order)
    (before : ¬counts journey) (after : counts marked ↔ gain) :
    total counts next.journeys = total counts link.journeys + Route.when gain journey.order.amount := by
  have moved := total_marked counts stood stands
  rwa [Route.when_neg before,Route.when_iff after,order] at moved

theorem total_lost {loss : Prop} [Decidable loss] (stood : link.journeys = front ++ journey :: back)
    (stands : next.journeys = front ++ marked :: back) (before : counts journey ↔ loss) (after : ¬counts marked) :
    total counts next.journeys + Route.when loss journey.order.amount = total counts link.journeys := by
  have moved := total_marked counts stood stands
  rwa [Route.when_neg after,Route.when_iff before] at moved

end total

def outstanding (link : Link) (side : Side) (denom : String) : Nat :=
  total (fun journey => journey.origin = side ∧ journey.order.denom = denom ∧ journey.arrived = false ∧
    journey.closing ≠ .refunded) link.journeys

def received (link : Link) (side : Side) (denom : String) : Nat :=
  total (fun journey => journey.origin = side ∧ journey.order.denom = denom ∧ journey.arrived = true) link.journeys

end Link

namespace Route
open Denomination
variable {route : Route} {link next : Link} {turn : Turn} {side : Side} {denom : String}

def paidOut (route : Route) (link : Link) (side : Side) (denom : String) : Nat :=
  Link.total (fun journey => journey.origin = side.other ∧ carries (route.ends side.other) journey.order.denom = true ∧
    route.releasedAs side journey.order.denom = denom ∧ journey.arrived = true) link.journeys

def voucher (route : Route) (side : Side) (denom : String) : String := wrap (route.ends side.other) denom

-- What a side has in escrow, and what it ever paid out of it, is what stands
-- against it: vouchers that are held or on their way back, tokens on their way
-- out, and the vouchers that came home.
def Balances (route : Route) (link : Link) (side : Side) (denom : String) : Prop :=
  (link.chain side).ledger.held (route.escrows side) denom + route.paidOut link side denom =
    (link.chain side.other).ledger.circulating (route.voucher side denom) + link.outstanding side denom +
      link.outstanding side.other (route.voucher side denom) + link.received side.other (route.voucher side denom)

theorem Entered.unsettled {outbound : Outbound} {journey : Journey} (entered : route.Entered outbound journey)
    (addressed : route.Addressed journey)
    (unsettled : outbound.isSettled journey.packet.source journey.packet.sequence = false) :
    journey.closing = .pending := by
  cases closed : journey.closing with
  | pending => rfl
  | confirmed | refunded =>
    have settled := entered.settled (fun same => by rw [closed] at same; cases same)
    rw [← addressed.source,unsettled] at settled
    cases settled

theorem voucher_carried (route : Route) (side : Side) (denom : String) :
    leavesHome (route.ends side.other) (route.voucher side denom) = false := by
  unfold leavesHome voucher
  rw [carries_wrap]
  rfl

theorem sums_sent (route : Route) {origin : Side} {caller : Address} {order : TransferOrder} {packet : Packet}
    (stands : next.journeys = link.journeys ++ [⟨origin,caller,order,packet,.underway,.pending⟩]) (side : Side)
    (denom : String) :
    next.outstanding side denom = link.outstanding side denom + when (origin = side ∧ order.denom = denom) order.amount ∧
      next.received side denom = link.received side denom ∧
      route.paidOut next side denom = route.paidOut link side denom := by
  unfold Link.outstanding Link.received paidOut
  rw [stands,Link.total_sent,Link.total_sent,Link.total_sent]
  refine ⟨?_,?_,?_⟩
  · rw [when_iff (show _ ↔ origin = side ∧ order.denom = denom by simp [Journey.arrived])]
  · rw [when_neg (by simp [Journey.arrived]),Nat.add_zero]
  · rw [when_neg (by simp [Journey.arrived]),Nat.add_zero]

section arrive
variable {front back : List Journey} {journey : Journey} {event : TransferEvent}

theorem sums_arrived (route : Route) (stood : link.journeys = front ++ journey :: back)
    (stands : next.journeys = front ++ {journey with fate := .delivered (.ok (.moved event))} :: back)
    (underway : journey.fate = .underway) (waiting : journey.closing = .pending) (side : Side) (denom : String) :
    next.outstanding side denom + when (journey.origin = side ∧ journey.order.denom = denom) journey.order.amount =
        link.outstanding side denom ∧
      next.received side denom = link.received side denom +
        when (journey.origin = side ∧ journey.order.denom = denom) journey.order.amount ∧
      route.paidOut next side denom = route.paidOut link side denom +
        when (journey.origin = side.other ∧ carries (route.ends side.other) journey.order.denom = true ∧
          route.releasedAs side journey.order.denom = denom) journey.order.amount := by
  have before : journey.arrived = false := by simp [Journey.arrived,underway]
  have after : ({journey with fate := .delivered (.ok (.moved event))} : Journey).arrived = true := rfl
  refine ⟨?_,?_,?_⟩
  · exact Link.total_lost stood stands (by simp [before,waiting]) (by simp [after])
  · exact Link.total_gained stood stands rfl (by simp [before]) (by simp [after])
  · exact Link.total_gained stood stands rfl (by simp [before]) (by simp [after])

end arrive

section close
variable {front back : List Journey} {journey : Journey} {fate : Fate} {closing : Closing}

theorem sums_kept (route : Route) (stood : link.journeys = front ++ journey :: back)
    (stands : next.journeys = front ++ {journey with fate := fate, closing := closing} :: back)
    (arrival : ({journey with fate := fate, closing := closing} : Journey).arrived = journey.arrived)
    (refund : closing = .refunded ↔ journey.closing = .refunded) (side : Side) (denom : String) :
    next.outstanding side denom = link.outstanding side denom ∧
      next.received side denom = link.received side denom ∧ route.paidOut next side denom = route.paidOut link side denom := by
  refine ⟨?_,?_,?_⟩
  · exact Link.total_kept stood stands rfl (by simp only [arrival,ne_eq,refund])
  · exact Link.total_kept stood stands rfl (by simp only [arrival])
  · exact Link.total_kept stood stands rfl (by simp only [arrival])

theorem sums_refunded (route : Route) (stood : link.journeys = front ++ journey :: back)
    (stands : next.journeys = front ++ {journey with fate := fate, closing := .refunded} :: back)
    (away : journey.arrived = false)
    (out : ({journey with fate := fate, closing := .refunded} : Journey).arrived = false)
    (waiting : journey.closing = .pending) (side : Side) (denom : String) :
    next.outstanding side denom + when (journey.origin = side ∧ journey.order.denom = denom) journey.order.amount =
        link.outstanding side denom ∧
      next.received side denom = link.received side denom ∧ route.paidOut next side denom = route.paidOut link side denom := by
  refine ⟨?_,?_,?_⟩
  · exact Link.total_lost stood stands (by simp [away,waiting]) (by simp)
  · exact Link.total_kept stood stands rfl (by simp [away,out])
  · exact Link.total_kept stood stands rfl (by simp [away,out])

end close

-- What a turn moves: nothing, an amount that leaves a side, one that a side
-- takes in, or one that goes back to the side that sent it.
inductive Flow (route : Route) (link next : Link) : Prop
  | none (ledgers : ∀ side, (next.chain side).ledger = (link.chain side).ledger)
      (sums : ∀ side denom, next.outstanding side denom = link.outstanding side denom ∧
        next.received side denom = link.received side denom ∧
        route.paidOut next side denom = route.paidOut link side denom)
  | out (origin : Side) (name : String) (amount : Amount)
      (still : next.chain origin.other = link.chain origin.other)
      (held : ∀ denom, (next.chain origin).ledger.held (route.escrows origin) denom =
        (link.chain origin).ledger.held (route.escrows origin) denom +
          when (leavesHome (route.ends origin) name = true ∧ denom = name) amount)
      (circulating : ∀ denom, (next.chain origin).ledger.circulating denom +
        when (leavesHome (route.ends origin) name = false ∧ denom = name) amount =
          (link.chain origin).ledger.circulating denom)
      (sums : ∀ side denom, next.outstanding side denom =
          link.outstanding side denom + when (origin = side ∧ name = denom) amount ∧
        next.received side denom = link.received side denom ∧
        route.paidOut next side denom = route.paidOut link side denom)
  | across (origin : Side) (name : String) (amount : Amount) (still : next.chain origin = link.chain origin)
      (held : ∀ denom, (next.chain origin.other).ledger.held (route.escrows origin.other) denom +
        when (carries (route.ends origin) name = true ∧ denom = route.releasedAs origin.other name) amount =
          (link.chain origin.other).ledger.held (route.escrows origin.other) denom)
      (circulating : ∀ denom, (next.chain origin.other).ledger.circulating denom =
        (link.chain origin.other).ledger.circulating denom +
          when (carries (route.ends origin) name = false ∧ denom = wrap (route.ends origin.other) name) amount)
      (sums : ∀ side denom, next.outstanding side denom + when (origin = side ∧ name = denom) amount =
          link.outstanding side denom ∧
        next.received side denom = link.received side denom + when (origin = side ∧ name = denom) amount ∧
        route.paidOut next side denom = route.paidOut link side denom +
          when (origin = side.other ∧ carries (route.ends side.other) name = true ∧
            route.releasedAs side name = denom) amount)
  | back (origin : Side) (name : String) (amount : Amount)
      (still : next.chain origin.other = link.chain origin.other)
      (held : ∀ denom, (next.chain origin).ledger.held (route.escrows origin) denom +
        when (leavesHome (route.ends origin) name = true ∧ denom = name) amount =
          (link.chain origin).ledger.held (route.escrows origin) denom)
      (circulating : ∀ denom, (next.chain origin).ledger.circulating denom =
        (link.chain origin).ledger.circulating denom +
          when (leavesHome (route.ends origin) name = false ∧ denom = name) amount)
      (sums : ∀ side denom, next.outstanding side denom + when (origin = side ∧ name = denom) amount =
          link.outstanding side denom ∧
        next.received side denom = link.received side denom ∧
        route.paidOut next side denom = route.paidOut link side denom)

theorem move_flow (books : route.Books link) (modest : link.Modest) (allowed : route.Allows turn)
    (moves : Link.Move link turn next) : route.Flow link next := by
  cases moves with
  | stay still kept =>
    refine .none (fun side => congrArg Chain.ledger (still side)) fun side denom => ?_
    unfold Link.outstanding Link.received paidOut
    rw [kept]
    exact ⟨rfl,rfl,rfl⟩
  | fail front back journey fate still stood stands away out ended =>
    refine .none (fun side => congrArg Chain.ledger (still side)) ?_
    exact sums_kept route stood stands (out.trans away.symm) Iff.rfl
  | depart origin caller order sent asked moved still stands =>
    subst asked
    obtain ⟨departs,outside,_⟩ := allowed
    have serves := books.serves origin
    exact .out origin order.denom order.amount still (send_held serves departs outside moved)
      (send_circulating serves departs moved) (sums_sent route stands)
  | arrive front back journey caller event moved still stood stands underway =>
    have known := Link.mem_marked stood
    have addressed := books.addressed journey known
    have waiting := books.waiting journey known underway
    have short := modest.short journey known
    have serves := books.serves journey.origin.other
    have source := addressed.source
    rw [← Side.other_other journey.origin] at source
    have held := receive_held serves source addressed.destination addressed.beyond addressed.written short moved
    have circulating := receive_circulating serves source addressed.destination addressed.written short moved
    rw [Side.other_other] at held circulating
    exact .across journey.origin journey.order.denom journey.order.amount still held circulating
      (sums_arrived route stood stands underway waiting)
  | confirm front back journey moved still stood stands ended =>
    obtain ⟨unsettled,same⟩ := Chain.confirm_exact.mp moved
    have known := Link.mem_marked stood
    have waiting := (books.entered journey known).unsettled (books.addressed journey known) unsettled
    refine .none (fun side => ?_) ?_
    · by_cases here : side = journey.origin
      · rw [here,same]
      · rw [Side.eq_other here,still]
    · exact sums_kept route stood stands rfl (by simp [waiting])
  | refund front back journey fate event cost moved still stood stands away out ended =>
    have known := Link.mem_marked stood
    have addressed := books.addressed journey known
    have entered := books.entered journey known
    have waiting := entered.unsettled addressed (Chain.refund_exact.mp moved).1
    have booked := entered.pending waiting
    exact .back journey.origin journey.order.denom journey.order.amount still
      (refund_held addressed.outside booked moved) (refund_circulating booked moved)
      (sums_refunded route stood stands away out waiting)

-- How an amount of some name shows in the sums of one that is at home on a side.
section share
variable {name : String} {amount : Amount}

theorem home_share (native : carries (route.ends side) denom = false) :
    when (leavesHome (route.ends side) name = true ∧ denom = name) amount =
      when (side = side ∧ name = denom) amount := by
  refine when_iff ⟨fun both => ⟨rfl,both.2.symm⟩,fun both => ⟨?_,both.2.symm⟩⟩
  rw [both.2]
  exact leavesHome_exact.mpr native

theorem voucher_share : when (leavesHome (route.ends side.other) name = false ∧ route.voucher side denom = name) amount =
    when (side.other = side.other ∧ name = route.voucher side denom) amount := by
  refine when_iff ⟨fun both => ⟨rfl,both.2.symm⟩,fun both => ⟨?_,both.2.symm⟩⟩
  rw [both.2]
  exact voucher_carried route side denom

theorem issue_share (native : carries (route.ends side) denom = false) :
    when (carries (route.ends side) name = false ∧ route.voucher side denom = wrap (route.ends side.other) name) amount =
      when (side = side ∧ name = denom) amount := by
  refine when_iff ⟨fun both => ⟨rfl,(wrap_inj.mp both.2).symm⟩,fun both => ⟨?_,?_⟩⟩
  · rw [both.2]
    exact native
  · rw [both.2]
    rfl

theorem payment_share :
    when (carries (route.ends side.other) name = true ∧ denom = route.releasedAs side name) amount =
      when (side.other = side.other ∧ carries (route.ends side.other) name = true ∧
        route.releasedAs side name = denom) amount :=
  when_iff ⟨fun both => ⟨rfl,both.1,both.2.symm⟩,fun all => ⟨all.2.1,all.2.2.symm⟩⟩

theorem near_share {condition : Prop} [Decidable condition] : when (side = side.other ∧ condition) amount = 0 :=
  when_neg fun both => Side.ne_other side both.1

theorem far_share {condition : Prop} [Decidable condition] : when (side.other = side ∧ condition) amount = 0 :=
  when_neg fun both => Side.ne_other side both.1.symm

end share

theorem flow_balances (flow : route.Flow link next) (native : carries (route.ends side) denom = false)
    (balances : route.Balances link side denom) : route.Balances next side denom := by
  unfold Balances at balances ⊢
  cases flow with
  | none ledgers sums =>
    obtain ⟨leaving,_,paid⟩ := sums side denom
    obtain ⟨returning,received,_⟩ := sums side.other (route.voucher side denom)
    rw [ledgers,ledgers,leaving,returning,received,paid]
    exact balances
  | out origin name amount still held circulating sums =>
    obtain ⟨leaving,_,paid⟩ := sums side denom
    obtain ⟨returning,received,_⟩ := sums side.other (route.voucher side denom)
    by_cases here : origin = side
    · subst here
      have gained := held denom
      rw [home_share native] at gained
      rw [near_share] at returning
      rw [still]
      omega
    · have far := Side.eq_other here
      subst far
      -- Vouchers leave circulation and are on their way back.
      have burned := circulating (route.voucher side denom)
      rw [voucher_share] at burned
      rw [far_share] at leaving
      rw [Side.other_other] at still
      rw [still]
      omega
  | across origin name amount still held circulating sums =>
    obtain ⟨leaving,_,paid⟩ := sums side denom
    obtain ⟨returning,received,_⟩ := sums side.other (route.voucher side denom)
    by_cases here : origin = side
    · subst here
      have issued := circulating (route.voucher origin denom)
      rw [issue_share native] at issued
      rw [near_share] at returning received paid
      rw [still]
      omega
    · have far := Side.eq_other here
      subst far
      -- The escrow pays under the name it goes by, and vouchers have come home.
      have spent := held denom
      rw [Side.other_other,payment_share] at spent
      rw [far_share] at leaving
      rw [still]
      omega
  | back origin name amount still held circulating sums =>
    obtain ⟨leaving,_,paid⟩ := sums side denom
    obtain ⟨returning,received,_⟩ := sums side.other (route.voucher side denom)
    by_cases here : origin = side
    · subst here
      have spent := held denom
      rw [home_share native] at spent
      rw [near_share] at returning
      rw [still]
      omega
    · have far := Side.eq_other here
      subst far
      have issued := circulating (route.voucher side denom)
      rw [voucher_share] at issued
      rw [far_share] at leaving
      rw [Side.other_other] at still
      rw [still]
      omega

theorem flow_supply (flow : route.Flow link next) (native : carries (route.ends side) denom = false) :
    (next.chain side).ledger.circulating denom = (link.chain side).ledger.circulating denom := by
  have leaves : ∀ {name amount}, when (leavesHome (route.ends side) name = false ∧ denom = name) amount = 0 :=
    when_neg fun both => by
      have home := leavesHome_exact.mpr native
      rw [both.2,both.1] at home
      cases home
  cases flow with
  | none ledgers sums => rw [ledgers]
  | out origin name amount still held circulating sums =>
    by_cases here : side = origin
    · subst here
      have burned := circulating denom
      rwa [leaves] at burned
    · rw [Side.eq_other here,still]
  | across origin name amount still held circulating sums =>
    by_cases here : side = origin
    · rw [here,still]
    · have far := Side.eq_other here
      subst far
      have foreign : when (carries (route.ends origin) name = false ∧ denom = wrap (route.ends origin.other) name)
          amount = 0 := when_neg fun both => by
        rw [both.2,carries_wrap] at native
        cases native
      rw [circulating,foreign,Nat.add_zero]
  | back origin name amount still held circulating sums =>
    by_cases here : side = origin
    · subst here
      rw [circulating,leaves,Nat.add_zero]
    · rw [Side.eq_other here,still]

theorem flow_unpaid (flow : route.Flow link next) (nothing : (link.chain side).ledger.circulating denom = 0)
    (unpaid : route.paidOut link side denom = 0) : route.paidOut next side denom = 0 := by
  cases flow with
  | none ledgers sums => rw [(sums side denom).2.2,unpaid]
  | out origin name amount still held circulating sums => rw [(sums side denom).2.2,unpaid]
  | back origin name amount still held circulating sums => rw [(sums side denom).2.2,unpaid]
  | across origin name amount still held circulating sums =>
    rw [(sums side denom).2.2,unpaid,Nat.zero_add]
    by_cases pays : origin = side.other ∧ carries (route.ends side.other) name = true ∧
        route.releasedAs side name = denom
    · obtain ⟨rfl,carried,named⟩ := pays
      have spent := held denom
      rw [Side.other_other] at spent
      have bound : (link.chain side).ledger.held (route.escrows side) denom ≤ _ := Ledger.held_le_circulating
      rw [when_pos ⟨carried,named.symm⟩] at spent
      rw [when_pos ⟨rfl,carried,named⟩]
      omega
    · exact when_neg pays

end Route
end TokenTransfer
