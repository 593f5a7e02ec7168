import TokenTransfer.Proofs.Conservation

namespace TokenTransfer

namespace Link
variable {link next : Link} {turn : Turn} {turns : List Turn}

-- Packets are never forgotten, so a link that is modest in the end was modest all along.
theorem move_modest (moves : Move link turn next) (modest : next.Modest) : link.Modest := by
  have marked : ∀ {front back : List Journey} {journey : Journey} {fate : Fate} {closing : Closing},
      link.journeys = front ++ journey :: back →
      next.journeys = front ++ {journey with fate := fate, closing := closing} :: back → link.Modest := by
    intro front back journey fate closing stood stands
    refine ⟨fun other present => ?_,fun side => ?_⟩
    · rcases mem_remarked stands stood present with same | kept
      · subst same
        have short := modest.short _ (mem_marked stands)
        exact short
      · exact modest.short other kept
    · rw [← Route.sent_marked stood stands rfl side]
      exact modest.few side
  cases moves with
  | stay still kept =>
    refine ⟨kept ▸ modest.short,fun side => ?_⟩
    have few := modest.few side
    unfold sent at few ⊢
    rwa [kept] at few
  | depart side caller order sent asked moved still stands =>
    refine ⟨fun journey present => ?_,fun asked => ?_⟩
    · apply modest.short journey
      rw [stands]
      exact List.mem_append_left _ present
    · have few := modest.few asked
      unfold Link.sent at few ⊢
      rw [stands,List.countP_append] at few
      omega
  | fail front back journey fate still stood stands => exact marked stood stands
  | arrive front back journey caller event moved still stood stands => exact marked stood stands
  | confirm front back journey moved still stood stands => exact marked stood stands
  | refund front back journey fate event cost moved still stood stands => exact marked stood stands

theorem run_modest (modest : (link.run turns).Modest) : link.Modest := by
  induction turns generalizing link with
  | nil => exact modest
  | cons turn rest ih => exact move_modest (play_moves link turn) (ih modest)

end Link

namespace Route
open Denomination
variable {route : Route} {start link next : Link} {turn : Turn} {turns : List Turn} {side : Side} {denom : String}

def Paid (route : Route) (journey : Journey) : Prop :=
  ∀ reply, journey.fate = .delivered (.ok reply) → carries (route.ends journey.origin) journey.order.denom = true →
    ∃ receiver, Address.read? journey.order.receiver = some receiver ∧
      reply = .moved ⟨route.escrows journey.origin.other,receiver,
        route.releasedAs journey.origin.other journey.order.denom,journey.order.amount⟩

theorem move_paid (books : route.Books link) (modest : link.Modest) (moves : Link.Move link turn next)
    (paid : ∀ journey ∈ link.journeys, route.Paid journey) : ∀ journey ∈ next.journeys, route.Paid journey := by
  have marked : ∀ {front back : List Journey} {journey marked : Journey}, link.journeys = front ++ journey :: back →
      next.journeys = front ++ marked :: back → route.Paid marked → ∀ other ∈ next.journeys, route.Paid other := by
    intro front back journey marked stood stands new other present
    rcases Link.mem_remarked stood stands present with rfl | known
    · exact new
    · exact paid other known
  have unarrived : ∀ {journey : Journey}, journey.arrived = false → route.Paid journey := by
    intro journey away reply fate
    unfold Journey.arrived at away
    rw [fate] at away
    cases away
  cases moves with
  | stay still kept => exact kept ▸ paid
  | fail front back journey fate still stood stands away out ended => exact marked stood stands (unarrived out)
  | depart side caller order sent asked moved still stands =>
    intro journey present
    rw [stands] at present
    rcases List.mem_append.mp present with known | new
    · exact paid journey known
    · cases List.mem_singleton.mp new
      exact unarrived rfl
  | arrive front back journey caller event moved still stood stands underway =>
    have inside := Link.mem_marked stood
    have addressed := books.addressed journey inside
    have source := addressed.source
    rw [← Side.other_other journey.origin] at source
    apply marked stood stands
    intro reply same carried
    cases same
    obtain ⟨_,receiver,read,⟨_,ran⟩ | ⟨forwarded,_⟩⟩ := receive_parts (books.serves journey.origin.other) source
      addressed.destination addressed.written (modest.short journey inside) moved
    · obtain ⟨_,_,_,told,_⟩ := Ledger.transfer_exact.mp ran
      exact ⟨receiver,read,congrArg Reply.moved told⟩
    · rw [Side.other_other] at forwarded
      cases carried.symm.trans forwarded
  | confirm front back journey moved still stood stands ended =>
    exact marked stood stands (paid journey (Link.mem_marked stood))
  | refund front back journey fate event cost moved still stood stands away out ended =>
    exact marked stood stands (unarrived out)

-- How a link starts: set up for the route, with nothing sent, empty escrows, and
-- nothing held on a side that is named as if it had come there over the channel.
structure Opens (route : Route) (start : Link) : Prop where
  serves : ∀ side, route.Serves side (start.chain side)
  fresh : ∀ side, (start.chain side).outbound = .new
  unsent : start.journeys = []
  empty : ∀ side denom, (start.chain side).ledger.held (route.escrows side) denom = 0
  unvisited : ∀ side account denom, carries (route.ends side) denom = true →
    (start.chain side).ledger.held account denom = 0

structure Sound (route : Route) (start link : Link) : Prop where
  books : route.Books link
  paid : ∀ journey ∈ link.journeys, route.Paid journey
  balances : ∀ side denom, carries (route.ends side) denom = false → route.Balances link side denom
  supply : ∀ side denom, carries (route.ends side) denom = false →
    (link.chain side).ledger.circulating denom = (start.chain side).ledger.circulating denom
  unpaid : ∀ side denom, carries (route.ends side) denom = false →
    (start.chain side).ledger.circulating denom = 0 → route.paidOut link side denom = 0

theorem opens_sound (opens : route.Opens start) : route.Sound start start := by
  have nobody : ∀ {P : Journey → Prop}, ∀ journey ∈ start.journeys, P journey := by
    intro P journey present
    rw [opens.unsent] at present
    cases present
  have unsent : ∀ side, start.sent side = 0 := fun side => by
    unfold Link.sent
    rw [opens.unsent]
    rfl
  refine ⟨⟨opens.serves,fun side => ?_,nobody,?_,nobody,nobody,nobody⟩,nobody,fun side denom native => ?_,
    fun _ _ _ => rfl,fun side denom _ _ => ?_⟩
  · rw [opens.fresh,unsent]
    rfl
  · rw [opens.unsent]
    exact List.nodup_nil
  · have none : (start.chain side.other).ledger.circulating (route.voucher side denom) = 0 :=
      Ledger.circulating_none fun account => opens.unvisited side.other account _ (carries_wrap _ _)
    unfold Balances paidOut Link.outstanding Link.received
    rw [opens.empty,none,opens.unsent]
    rfl
  · unfold paidOut
    rw [opens.unsent]
    rfl

theorem play_sound (sound : route.Sound start link) (allowed : route.Allows turn) (modest : (link.play turn).Modest) :
    route.Sound start (link.play turn) := by
  have moves := Link.play_moves link turn
  have before := Link.move_modest moves modest
  have flow := move_flow sound.books before allowed moves
  refine ⟨move_books sound.books allowed moves before modest,move_paid sound.books before moves sound.paid,?_,?_,?_⟩
  · exact fun side denom native => flow_balances flow native (sound.balances side denom native)
  · exact fun side denom native => (flow_supply flow native).trans (sound.supply side denom native)
  · intro side denom native nothing
    exact flow_unpaid flow ((sound.supply side denom native).trans nothing) (sound.unpaid side denom native nothing)

theorem run_sound (sound : route.Sound start link) (allowed : ∀ turn ∈ turns, route.Allows turn)
    (modest : (link.run turns).Modest) : route.Sound start (link.run turns) := by
  induction turns generalizing link with
  | nil => exact sound
  | cons turn rest ih =>
    have now : (link.play turn).Modest := Link.run_modest modest
    refine ih (play_sound sound (allowed turn List.mem_cons_self) now) ?_ modest
    exact fun later present => allowed later (List.mem_cons_of_mem _ present)

theorem paidOut_unprefixed (unprefixed : route.unprefixed = true) (link : Link) (side : Side) (denom : String) :
    route.paidOut link side denom = link.received side.other (route.voucher side denom) := by
  have same : ∀ name, (carries (route.ends side.other) name = true ∧ route.releasedAs side name = denom) ↔
      name = route.voucher side denom := by
    intro name
    constructor
    · intro parts
      obtain ⟨carried,named⟩ := parts
      obtain ⟨rest,rfl⟩ := carries_exact.mp carried
      unfold releasedAs at named
      rw [if_pos unprefixed,unwrap_wrap] at named
      cases named
      rfl
    · intro same
      subst same
      refine ⟨carries_wrap _ _,?_⟩
      unfold releasedAs voucher
      rw [if_pos unprefixed,unwrap_wrap]
      rfl
  unfold paidOut Link.received
  simp only [← same,and_assoc]

theorem releasedAs_prefixed (prefixed : route.unprefixed = false) : route.releasedAs side denom = denom := by
  unfold releasedAs
  rw [prefixed]
  rfl

-- Released as they are named, returning tokens only cost what is named like them.
theorem paidOut_prefixed (prefixed : route.unprefixed = false) (apart : carries (route.ends side.other) denom = false)
    (link : Link) : route.paidOut link side denom = 0 := by
  apply Link.total_none
  intro journey counted
  obtain ⟨_,carried,named,_⟩ := counted
  rw [releasedAs_prefixed prefixed] at named
  rw [named,apart] at carried
  cases carried

end Route

namespace Sample

def account (n : UInt8) : Address := ⟨List.replicate 19 0 ++ [n],rfl⟩

def ends : Side → ChannelEnd
  | .left => ⟨"transfer","channel-0"⟩
  | .right => ⟨"transfer","channel-1"⟩

def route (unprefixed : Bool) : Route := ⟨ends,fun _ => account 9,.abiAddress,unprefixed⟩

def units (n : Nat) : Amount := (Amount.ofNat? n).getD .zero

def homonym : String := "transfer/channel-1/stone"

def holdings : Side → Table (Address × String) Amount
  | .left => (Table.empty.put (account 1,"stone") (units 9)).put (account 1,homonym) (units 5)
  | .right => .empty

def chain (unprefixed : Bool) (side : Side) : Chain :=
  {Chain.new ⟨account 7,true,true,.abiAddress,unprefixed⟩ (account 8) (account 8) .plain with
    ledger := ⟨account 8,account 8,holdings side,[]⟩
    escrows := ⟨account 8,.put .empty (ends side).channel (account 9)⟩
    channels := ⟨account 8,none,.put .empty (ends side) (ends side.other)⟩}

def link (unprefixed : Bool) : Link := ⟨⟨chain unprefixed .left,.none⟩,⟨chain unprefixed .right,.none⟩,[]⟩

theorem link_chain (unprefixed : Bool) (side : Side) : (link unprefixed).chain side = chain unprefixed side := by
  cases side <;> rfl

theorem link_opens (unprefixed : Bool) : (route unprefixed).Opens (link unprefixed) := by
  refine ⟨fun side => ?_,fun side => ?_,rfl,fun side denom => ?_,fun side holder denom carried => ?_⟩
  · rw [link_chain]
    cases unprefixed <;> cases side <;> exact ⟨rfl,by decide,by decide,rfl,rfl⟩
  · rw [link_chain]
    rfl
  · rw [link_chain]
    apply Ledger.held_unlisted
    intro listed
    cases side with
    | right => cases listed
    | left =>
      have apart : ∀ entry ∈ (holdings .left).entries, entry.1.1 ≠ account 9 := by decide
      obtain ⟨entry,inside,same⟩ := List.mem_map.mp listed
      exact apart entry inside (congrArg Prod.fst same)
  · rw [link_chain]
    apply Ledger.held_unlisted
    intro listed
    cases side with
    | right => cases listed
    | left =>
      have native : ∀ entry ∈ (holdings .left).entries, Denomination.carries (ends .left) entry.1.2 = false := by decide
      obtain ⟨entry,inside,same⟩ := List.mem_map.mp listed
      have foreign := native entry inside
      rw [same] at foreign
      cases carried.symm.trans foreign

def send (side : Side) (sender receiver : UInt8) (denom : String) (n : Nat) : Turn :=
  .send side (account sender) ⟨ends side,denom,units n,(account receiver).text,"",.zero,0⟩

def returnErrand : List Turn :=
  [send .left 1 2 "stone" 6,.deliver (account 7) 0,send .right 2 1 homonym 4,.deliver (account 7) 1,
    .handBack (account 7) 1,send .left 1 2 "stone" 3]

def homonymMixup : List Turn :=
  [send .left 1 2 "stone" 5,.deliver (account 7) 0,send .left 1 2 homonym 5,.deliver (account 7) 1,
    send .right 2 1 homonym 5,.deliver (account 7) 2]

theorem send_allowed (unprefixed : Bool) (side : Side) {sender receiver : UInt8} (denom : String) (n : Nat)
    (apart : account sender ≠ account 9) (beyond : account receiver ≠ account 9) :
    (route unprefixed).Allows (send side sender receiver denom n) := by
  refine ⟨rfl,apart,?_⟩
  show Address.read? (account receiver).text ≠ some (account 9)
  rw [Address.text_roundtrip]
  exact fun same => beyond (Option.some.inj same)

theorem returnErrand_allowed (unprefixed : Bool) : ∀ turn ∈ returnErrand, (route unprefixed).Allows turn := by
  intro turn present
  simp only [returnErrand,List.mem_cons,List.not_mem_nil,or_false] at present
  rcases present with rfl | rfl | rfl | rfl | rfl | rfl
  · exact send_allowed unprefixed _ _ _ (by decide) (by decide)
  · exact True.intro
  · exact send_allowed unprefixed _ _ _ (by decide) (by decide)
  · exact True.intro
  · exact True.intro
  · exact send_allowed unprefixed _ _ _ (by decide) (by decide)

theorem homonymMixup_allowed (unprefixed : Bool) : ∀ turn ∈ homonymMixup, (route unprefixed).Allows turn := by
  intro turn present
  simp only [homonymMixup,List.mem_cons,List.not_mem_nil,or_false] at present
  rcases present with rfl | rfl | rfl | rfl | rfl | rfl
  · exact send_allowed unprefixed _ _ _ (by decide) (by decide)
  · exact True.intro
  · exact send_allowed unprefixed _ _ _ (by decide) (by decide)
  · exact True.intro
  · exact send_allowed unprefixed _ _ _ (by decide) (by decide)
  · exact True.intro

theorem modest_few {link : Link} (short : ∀ journey ∈ link.journeys, journey.packet.data.length < UInt32.size)
    (few : link.journeys.length < UInt64.size - 2) : link.Modest :=
  ⟨short,fun _ => Nat.lt_of_le_of_lt List.countP_le_length few⟩

theorem returnErrand_reaches : ((link true).run returnErrand).Modest ∧
    (((link true).run returnErrand).chain .left).ledger.held (account 9) "stone" = 5 ∧
    (((link true).run returnErrand).chain .right).ledger.circulating homonym = 2 ∧
    ((link true).run returnErrand).outstanding .left "stone" = 3 := by
  have facts : (∀ journey ∈ ((link true).run returnErrand).journeys, journey.packet.data.length < UInt32.size) ∧
      ((link true).run returnErrand).journeys.length < UInt64.size - 2 ∧
      (((link true).run returnErrand).chain .left).ledger.held (account 9) "stone" = 5 ∧
      (((link true).run returnErrand).chain .right).ledger.circulating homonym = 2 ∧
      ((link true).run returnErrand).outstanding .left "stone" = 3 := by decide +kernel
  exact ⟨modest_few facts.1 facts.2.1,facts.2.2⟩

theorem homonymMixup_reaches : ((link false).run homonymMixup).Modest ∧
    (((link false).run homonymMixup).chain .left).ledger.held (account 9) "stone" = 5 ∧
    (((link false).run homonymMixup).chain .left).ledger.held (account 9) homonym = 0 ∧
    (((link false).run homonymMixup).chain .right).ledger.circulating homonym = 0 ∧
    (((link false).run homonymMixup).chain .right).ledger.circulating ("transfer/channel-1/" ++ homonym) = 5 := by
  have facts : (∀ journey ∈ ((link false).run homonymMixup).journeys, journey.packet.data.length < UInt32.size) ∧
      ((link false).run homonymMixup).journeys.length < UInt64.size - 2 ∧
      (((link false).run homonymMixup).chain .left).ledger.held (account 9) "stone" = 5 ∧
      (((link false).run homonymMixup).chain .left).ledger.held (account 9) homonym = 0 ∧
      (((link false).run homonymMixup).chain .right).ledger.circulating homonym = 0 ∧
      (((link false).run homonymMixup).chain .right).ledger.circulating ("transfer/channel-1/" ++ homonym) = 5 := by
    decide +kernel
  exact ⟨modest_few facts.1 facts.2.1,facts.2.2⟩

end Sample

namespace Route
open Denomination
variable {route : Route} {start link : Link} {side : Side} {denom : String}

theorem conserved (route : Route) (start : Link) (turns : List Turn) (unprefixed : route.unprefixed = true)
    (opens : route.Opens start) (allowed : ∀ turn ∈ turns, route.Allows turn) (modest : (start.run turns).Modest)
    (side : Side) (denom : String) (native : carries (route.ends side) denom = false) :
    let reached := start.run turns
    (reached.chain side).ledger.held (route.escrows side) denom =
        (reached.chain side.other).ledger.circulating (wrap (route.ends side.other) denom) +
          reached.outstanding side denom +
            reached.outstanding side.other (wrap (route.ends side.other) denom) ∧
      (reached.chain side).ledger.circulating denom = (start.chain side).ledger.circulating denom := by
  have sound := run_sound (opens_sound opens) allowed modest
  have balances := sound.balances side denom native
  unfold Balances voucher at balances
  rw [paidOut_unprefixed unprefixed] at balances
  refine ⟨?_,sound.supply side denom native⟩
  unfold voucher at balances
  omega

theorem conserved_errand :
    (Sample.route true).unprefixed = true ∧ (Sample.route true).Opens (Sample.link true) ∧
      (∀ turn ∈ Sample.returnErrand, (Sample.route true).Allows turn) ∧
      ((Sample.link true).run Sample.returnErrand).Modest ∧
      carries ((Sample.route true).ends .left) "stone" = false ∧
      let reached := (Sample.link true).run Sample.returnErrand
      (reached.chain .left).ledger.held (Sample.account 9) "stone" = 5 ∧
        (reached.chain .right).ledger.circulating Sample.homonym = 2 ∧ reached.outstanding .left "stone" = 3 ∧
        (reached.chain .left).ledger.held ((Sample.route true).escrows .left) "stone" =
          (reached.chain Side.left.other).ledger.circulating (wrap ((Sample.route true).ends Side.left.other) "stone") +
            reached.outstanding .left "stone" +
              reached.outstanding Side.left.other (wrap ((Sample.route true).ends Side.left.other) "stone") := by
  obtain ⟨modest,held,circulating,outstanding⟩ := Sample.returnErrand_reaches
  have conserves := conserved (Sample.route true) (Sample.link true) Sample.returnErrand rfl (Sample.link_opens true)
    (Sample.returnErrand_allowed true) modest .left "stone" (by decide)
  exact ⟨rfl,Sample.link_opens true,Sample.returnErrand_allowed true,modest,by decide,held,circulating,outstanding,
    conserves.1⟩

-- With returning tokens released as they are named, an escrow covers what
-- stands against it where no other token could be named like its own: a packet
-- that comes home is paid its amount under the very name it has, out of whatever
-- the escrow holds of that.
theorem solvent (route : Route) (start : Link) (turns : List Turn) (prefixed : route.unprefixed = false)
    (opens : route.Opens start) (allowed : ∀ turn ∈ turns, route.Allows turn) (modest : (start.run turns).Modest)
    (side : Side) (denom : String) (native : carries (route.ends side) denom = false) :
    let reached := start.run turns
    let owed := (reached.chain side.other).ledger.circulating (wrap (route.ends side.other) denom) +
      reached.outstanding side denom + reached.outstanding side.other (wrap (route.ends side.other) denom)
    (reached.chain side).ledger.held (route.escrows side) denom + route.paidOut reached side denom =
        owed + reached.received side.other (wrap (route.ends side.other) denom) ∧
      (carries (route.ends side.other) denom = false ∨
          (∀ account, (start.chain side).ledger.held account denom = 0) →
        owed ≤ (reached.chain side).ledger.held (route.escrows side) denom) ∧
      ∀ journey ∈ reached.journeys, ∀ reply, journey.fate = .delivered (.ok reply) →
        carries (route.ends journey.origin) journey.order.denom = true →
        ∃ receiver, Address.read? journey.order.receiver = some receiver ∧ reply = .moved
          ⟨route.escrows journey.origin.other,receiver,journey.order.denom,journey.order.amount⟩ := by
  have sound := run_sound (opens_sound opens) allowed modest
  have balances := sound.balances side denom native
  unfold Balances voucher at balances
  refine ⟨?_,fun clear => ?_,fun journey present reply fate carried => ?_⟩
  · omega
  · have unpaid : route.paidOut (start.run turns) side denom = 0 := by
      rcases clear with apart | unheld
      · exact paidOut_prefixed prefixed apart (start.run turns)
      · exact sound.unpaid side denom native (Ledger.circulating_none unheld)
    omega
  · obtain ⟨receiver,read,paid⟩ := sound.paid journey present reply fate carried
    rw [releasedAs_prefixed prefixed] at paid
    exact ⟨receiver,read,paid⟩

theorem solvent_mixup :
    (Sample.route false).unprefixed = false ∧ (Sample.route false).Opens (Sample.link false) ∧
      (∀ turn ∈ Sample.homonymMixup, (Sample.route false).Allows turn) ∧
      ((Sample.link false).run Sample.homonymMixup).Modest ∧
      carries ((Sample.route false).ends .left) "stone" = false ∧
      carries ((Sample.route false).ends Side.left.other) "stone" = false ∧
      let reached := (Sample.link false).run Sample.homonymMixup
      (reached.chain .left).ledger.held (Sample.account 9) "stone" = 5 ∧
        (reached.chain Side.left.other).ledger.circulating (wrap ((Sample.route false).ends Side.left.other) "stone") +
            reached.outstanding .left "stone" +
              reached.outstanding Side.left.other (wrap ((Sample.route false).ends Side.left.other) "stone") ≤
          (reached.chain .left).ledger.held ((Sample.route false).escrows .left) "stone" := by
  obtain ⟨modest,held,_⟩ := Sample.homonymMixup_reaches
  have covers := solvent (Sample.route false) (Sample.link false) Sample.homonymMixup rfl (Sample.link_opens false)
    (Sample.homonymMixup_allowed false) modest .left "stone" (by decide)
  have apart : carries ((Sample.route false).ends Side.left.other) "stone" = false := by decide
  exact ⟨rfl,Sample.link_opens false,Sample.homonymMixup_allowed false,modest,by decide,apart,held,covers.2.1 (.inl apart)⟩

-- The homonym is not: the vouchers of the stones were paid out of it, and its own
-- vouchers have nothing left to stand on.
theorem homonym_uncovered :
    (Sample.route false).unprefixed = false ∧ (Sample.route false).Opens (Sample.link false) ∧
      (∀ turn ∈ Sample.homonymMixup, (Sample.route false).Allows turn) ∧
      ((Sample.link false).run Sample.homonymMixup).Modest ∧
      carries ((Sample.route false).ends .left) Sample.homonym = false ∧
      let reached := (Sample.link false).run Sample.homonymMixup
      ¬(reached.chain .right).ledger.circulating (wrap ((Sample.route false).ends .right) Sample.homonym) +
            reached.outstanding .left Sample.homonym +
              reached.outstanding .right (wrap ((Sample.route false).ends .right) Sample.homonym) ≤
          (reached.chain .left).ledger.held ((Sample.route false).escrows .left) Sample.homonym := by
  obtain ⟨modest,_,held,_,circulating⟩ := Sample.homonymMixup_reaches
  have hop : wrap ((Sample.route false).ends .right) Sample.homonym = "transfer/channel-1/" ++ Sample.homonym := by
    decide
  refine ⟨rfl,Sample.link_opens false,Sample.homonymMixup_allowed false,modest,by decide,?_⟩
  intro reached covered
  rw [hop] at covered
  have drained : (reached.chain .left).ledger.held ((Sample.route false).escrows .left) Sample.homonym = 0 := held
  have issued : (reached.chain .right).ledger.circulating ("transfer/channel-1/" ++ Sample.homonym) = 5 := circulating
  omega

end Route
end TokenTransfer
