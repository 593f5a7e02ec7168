import TokenTransfer.Proofs.Debits

namespace TokenTransfer

namespace Outbound
open SettledWindow
variable {sent : List Departure} {outbound : Outbound} {departure : Departure} {packet : Packet} {entry : InFlight}
  {place : ChannelEnd} {sequence : UInt64}

theorem flying_none : outbound.flying place sequence = 0 ↔
    ∀ id entry, outbound.inFlight.find id = some entry → ¬(id.source = place ∧ id.sequence = sequence) := by
  unfold flying
  rw [List.countP_eq_zero]
  constructor
  · intro none id entry found
    simpa using none (id,entry) (outbound.inFlight.find_listed found)
  · intro none row listed
    simpa using none row.1 row.2 (outbound.inFlight.find_member listed)

theorem send_passes (numbered : packet.sequence = outbound.next packet.source) (inner : Inner sequence)
    (passed : sequence < outbound.next place) : sequence < (outbound.send packet entry).next place := by
  rw [send_next]
  split
  · rename_i here
    rw [lt_next inner,numbered,← here]
    exact .inl passed
  · exact passed

-- A report settles a number and takes one identity out of flight: the two are the same
-- if all in flight under the number goes where the report says.
theorem settle_lands : (outbound.settle packet).flying packet.source packet.sequence = 0 ↔
    ∀ id entry, outbound.inFlight.find id = some entry → id.source = packet.source →
      id.sequence = packet.sequence → id.destination = packet.destination := by
  rw [flying_none]
  constructor
  · intro landed id entry found source sequence
    by_cases same : id = packet.id
    · rw [same]
      rfl
    · exact absurd ⟨source,sequence⟩ (landed id entry (settle_finds.mpr ⟨same,found⟩))
  · intro bound id entry found parts
    obtain ⟨other,before⟩ := settle_finds.mp found
    obtain ⟨source,sequence⟩ := parts
    refine other ?_
    have destination := bound id entry before source sequence
    cases id
    cases source
    cases sequence
    cases destination
    rfl

-- The books of one application that sent these packets, whatever it was told of their
-- ends: nothing else is in flight, and below the last number no two share one.
structure Kept (sent : List Departure) (outbound : Outbound) : Prop where
  listed : ∀ id entry, outbound.inFlight.find id = some entry → ∃ departure ∈ sent, departure.packet.id = id
  passed : ∀ departure ∈ sent, Inner departure.packet.sequence →
    departure.packet.sequence < outbound.next departure.packet.source
  apart : ∀ one ∈ sent, ∀ two ∈ sent, Inner one.packet.sequence → one.number = two.number → one = two

theorem new_kept : Kept [] .new := ⟨nofun,nofun,nofun⟩

theorem Kept.fresh {other : Departure} (kept : Kept sent outbound) (early : other ∈ sent)
    (numbered : departure.packet.sequence = outbound.next departure.packet.source)
    (inner : Inner departure.packet.sequence) : other.number ≠ departure.number := by
  intro same
  have source : other.packet.source = departure.packet.source := congrArg Prod.fst same
  have sequence : other.packet.sequence = departure.packet.sequence := congrArg Prod.snd same
  have low := kept.passed other early (sequence ▸ inner)
  rw [source,sequence,numbered] at low
  exact UInt64.lt_irrefl _ low

theorem Kept.sends (kept : Kept sent outbound) (numbered : departure.packet.sequence = outbound.next departure.packet.source) :
    Kept (sent ++ [departure]) (outbound.send departure.packet departure.entry) := by
  refine ⟨?_,?_,?_⟩
  · intro id entry found
    rw [send_find] at found
    split at found
    · rename_i here
      exact ⟨departure,by simp,here.symm⟩
    · obtain ⟨other,early,same⟩ := kept.listed id entry found
      exact ⟨other,List.mem_append_left _ early,same⟩
  · intro other present inner
    rcases List.mem_append.mp present with early | now
    · exact send_passes numbered inner (kept.passed other early inner)
    · cases List.mem_singleton.mp now
      rw [send_next,if_pos rfl,lt_next inner]
      exact .inr rfl
  · intro one first two second inner same
    rcases List.mem_append.mp first with early | now <;> rcases List.mem_append.mp second with early' | now'
    · exact kept.apart one early two early' inner same
    · cases List.mem_singleton.mp now'
      have again : one.packet.sequence = departure.packet.sequence := congrArg Prod.snd same
      exact absurd same (kept.fresh early numbered (again ▸ inner))
    · cases List.mem_singleton.mp now
      exact absurd same.symm (kept.fresh early' numbered inner)
    · rw [List.mem_singleton.mp now,List.mem_singleton.mp now']

theorem Kept.settles (kept : Kept sent outbound) (packet : Packet) : Kept sent (outbound.settle packet) :=
  ⟨fun id entry found => kept.listed id entry (settle_finds.mp found).2,kept.passed,kept.apart⟩

structure Closed (place : ChannelEnd) (sequence : UInt64) (outbound : Outbound) : Prop where
  passed : sequence < outbound.next place
  settled : outbound.isSettled place sequence = true
  landed : outbound.flying place sequence = 0

theorem Closed.sends (closed : Closed place sequence outbound) (inner : Inner sequence)
    (numbered : packet.sequence = outbound.next packet.source) : Closed place sequence (outbound.send packet entry) := by
  refine ⟨send_passes numbered inner closed.passed,closed.settled,flying_none.mpr ?_⟩
  intro id other found parts
  rw [send_find] at found
  split at found
  · rename_i here
    subst here
    obtain ⟨rfl,rfl⟩ := parts
    have low := closed.passed
    rw [show packet.id.sequence = outbound.next packet.id.source from numbered] at low
    exact UInt64.lt_irrefl _ low
  · exact flying_none.mp closed.landed id other found parts

theorem Closed.settles (closed : Closed place sequence outbound) (inner : Inner sequence) (packet : Packet) :
    Closed place sequence (outbound.settle packet) := by
  refine ⟨closed.passed,settle_keeps inner closed.settled,flying_none.mpr ?_⟩
  intro id entry found
  exact flying_none.mp closed.landed id entry (settle_finds.mp found).2

theorem Kept.closes (kept : Kept sent outbound) (present : departure ∈ sent) (same : departure.packet.id = packet.id)
    (inner : Inner packet.sequence) : Closed packet.source packet.sequence (outbound.settle packet) := by
  have source : departure.packet.source = packet.source := congrArg PacketId.source same
  have sequence : departure.packet.sequence = packet.sequence := congrArg PacketId.sequence same
  refine ⟨?_,settle_settles inner,settle_lands.mpr ?_⟩
  · have low := kept.passed departure present (sequence ▸ inner)
    rwa [source,sequence] at low
  · intro id entry found here number
    obtain ⟨other,early,known⟩ := kept.listed id entry found
    subst known
    have one : other = departure :=
      kept.apart other early departure present (show Inner other.packet.id.sequence from number ▸ inner)
        (Prod.ext (here.trans source.symm) (number.trans sequence.symm))
    rw [one]
    exact congrArg PacketId.destination same

end Outbound

namespace Host
open SettledWindow

theorem kept_lasts : Lasting Outbound.Kept := ⟨fun numbered kept => kept.sends numbered,fun packet kept => kept.settles packet⟩

theorem closed_lasts {place : ChannelEnd} {sequence : UInt64} (inner : Inner sequence) :
    Lasting fun _ => Outbound.Closed place sequence :=
  ⟨fun numbered closed => closed.sends inner numbered,fun packet closed => closed.settles inner packet⟩

theorem settled_landed (host : Host) (requests : List Request) (new : host.chain.outbound = .new)
    (running : ∀ request ∈ requests, request.restarts = false) (request : Request) (packet : Packet)
    (reported : request.packet? = some packet) (accepted : ((host.run requests).2.step request).1.isOk = true) :
    let reached := (host.run requests).2
    let next := (reached.step request).2
    (next.chain.outbound.flying packet.source packet.sequence = 0 ↔
      ∀ departure ∈ host.departures requests, departure.number = (packet.source,packet.sequence) →
        reached.chain.outbound.inFlight.find departure.packet.id ≠ none →
          departure.packet.destination = packet.destination) ∧
      ((∃ departure ∈ host.departures requests, departure.packet.id = packet.id) → Inner packet.sequence →
        ∀ later : List Request, (∀ request ∈ later, request.restarts = false) →
          let books := (next.run later).2.chain.outbound
          books.isSettled packet.source packet.sequence = true ∧ books.flying packet.source packet.sequence = 0) := by
  intro reached next
  have kept : Outbound.Kept (host.departures requests) reached.chain.outbound :=
    kept_lasts.run [] (new ▸ Outbound.new_kept) running
  have settled : next.chain.outbound = reached.chain.outbound.settle packet := step_reported reported accepted
  rw [settled]
  refine ⟨Outbound.settle_lands.trans ⟨?_,?_⟩,?_⟩
  · intro bound departure present number flying
    obtain ⟨entry,found⟩ := Option.ne_none_iff_exists'.mp flying
    exact bound departure.packet.id entry found (congrArg Prod.fst number) (congrArg Prod.snd number)
  · intro bound id entry found source sequence
    obtain ⟨departure,present,rfl⟩ := kept.listed id entry found
    exact bound departure present (Prod.ext source sequence) (by simp [found])
  · intro known inner later running'
    obtain ⟨departure,present,same⟩ := known
    have closed : Outbound.Closed packet.source packet.sequence next.chain.outbound :=
      settled ▸ kept.closes present same inner
    have final := (closed_lasts inner).run [] closed running'
    exact ⟨final.settled,final.landed⟩

theorem settled_landed_giveUp :
    relayed.chain.outbound = .new ∧ (∀ request ∈ expiryErrand, request.restarts = false) ∧
      ((relayed.run expiryErrand).2.step giveUp).1.isOk = true ∧
      (∃ departure ∈ relayed.departures expiryErrand, departure.packet.id = reported.id) ∧ Inner reported.sequence ∧
      (∀ request ∈ [delivery 1], request.restarts = false) ∧
      let next := ((relayed.run expiryErrand).2.step giveUp).2
      next.chain.outbound.flying reported.source 1 = 0 ∧
        (next.run [delivery 1]).2.chain.outbound.isSettled reported.source 1 = true ∧
        (next.run [delivery 1]).2.chain.outbound.flying reported.source 1 = 0 := by
  have facts : (∀ request ∈ expiryErrand, request.restarts = false) ∧
      ((relayed.run expiryErrand).2.step giveUp).1.isOk = true ∧
      (∃ departure ∈ relayed.departures expiryErrand, departure.packet.id = reported.id) ∧ Inner reported.sequence ∧
      (∀ request ∈ [delivery 1], request.restarts = false) ∧
      ∀ departure ∈ relayed.departures expiryErrand, departure.packet.destination = reported.destination := by decide +kernel
  obtain ⟨running,accepted,known,inner,later,bound⟩ := facts
  have landed := settled_landed relayed expiryErrand rfl running giveUp _ rfl accepted
  refine ⟨rfl,running,accepted,known,inner,later,?_,landed.2 known inner [delivery 1] later⟩
  exact landed.1.mpr fun departure present _ _ => bound departure present

-- A report that names another end than the packet went to settles the number of that
-- packet, and leaves it in flight: what became of it is not heard any more. So does a
-- true report, if it is on a packet from before a restart, and the channel leads
-- elsewhere since.
theorem report_orphans :
    let elsewhere : ChannelEnd := ⟨"transfer","channel-9"⟩
    let reached := (relayed.run (opening ++ [delivery 4])).2
    let astray := reached.step (.acknowledge relay {reported with destination := elsewhere} Acknowledgement.standard.write)
    let rerouted := (starter.run [.openChannel relay reported.source elsewhere,delivery 2]).2
    (astray.1.isOk = true ∧ astray.2.chain.outbound.isSettled reported.source reported.sequence = true ∧
      astray.2.chain.outbound.flying reported.source reported.sequence = 1 ∧
      (astray.2.step giveUp).1 = .error (.alreadySettled reported.source 1)) ∧
      ∃ departure ∈ loaded.departed (delivery 4), departure.packet.id = reported.id ∧
        let repaid := rerouted.step (.timeout relay departure.packet)
        repaid.1.isOk = true ∧ repaid.2.chain.outbound.isSettled reported.source reported.sequence = true ∧
          repaid.2.chain.outbound.flying reported.source reported.sequence = 1 := by
  decide +kernel

end Host
end TokenTransfer
