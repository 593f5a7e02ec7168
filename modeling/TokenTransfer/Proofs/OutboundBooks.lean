import Mathlib.Data.List.Nodup
import TokenTransfer.Proofs.Departures

namespace TokenTransfer

namespace Table
variable {κ ν : Type} [DecidableEq κ] {key : κ} {entries : List (κ × ν)}

theorem replace_fresh (value : ν) (fresh : key ∉ entries.map Prod.fst) :
    replace key value entries = entries ++ [(key,value)] := by
  induction entries with
  | nil => rfl
  | cons entry rest ih =>
    simp only [List.map_cons,List.mem_cons,not_or] at fresh
    rw [replace,if_neg (Ne.symm fresh.1),ih fresh.2]
    rfl

theorem remove_filtered (distinct : (entries.map Prod.fst).Nodup) :
    remove key entries = entries.filter fun entry => entry.1 ≠ key := by
  induction entries with
  | nil => rfl
  | cons entry rest ih =>
    obtain ⟨alone,apart⟩ := List.nodup_cons.mp distinct
    by_cases same : entry.1 = key
    · have others : rest.filter (fun entry => entry.1 ≠ key) = rest := by
        refine List.filter_eq_self.mpr fun other inside => decide_eq_true fun again => alone ?_
        rw [same,← again]
        exact List.mem_map_of_mem inside
      rw [remove,if_pos same,List.filter_cons_of_neg (by simpa using same),others]
    · rw [remove,if_neg same,ih apart,List.filter_cons_of_pos (by simpa using same)]

theorem remove_length {value : ν} (present : (key,value) ∈ entries) : (remove key entries).length + 1 = entries.length := by
  induction entries with
  | nil => cases present
  | cons entry rest ih =>
    rw [remove]
    split
    · rfl
    · rename_i other
      cases present with
      | head => exact absurd rfl other
      | tail _ later => rw [List.length_cons,List.length_cons,ih later]

end Table

def leaving (place : ChannelEnd) (sent : List Departure) : List Departure :=
  sent.filter fun departure => departure.packet.source = place

section leaving
variable {place : ChannelEnd} {sent : List Departure} {departure : Departure}

theorem mem_leaving : departure ∈ leaving place sent ↔ departure ∈ sent ∧ departure.packet.source = place := by
  unfold leaving
  rw [List.mem_filter,decide_eq_true_eq]

theorem leaving_append (later : List Departure) : leaving place (sent ++ later) = leaving place sent ++ leaving place later :=
  List.filter_append _ _

theorem leaving_here : leaving departure.packet.source (sent ++ [departure]) =
    leaving departure.packet.source sent ++ [departure] := by
  rw [leaving_append]
  congr 1
  exact List.filter_cons_of_pos (decide_eq_true rfl)

theorem leaving_elsewhere (elsewhere : departure.packet.source ≠ place) :
    leaving place (sent ++ [departure]) = leaving place sent := by
  have none : leaving place [departure] = [] := List.filter_cons_of_neg (by simpa using elsewhere)
  rw [leaving_append,none,List.append_nil]

end leaving

namespace Outbound
open SettledWindow

def opens (outbound : Outbound) (departure : Departure) : Bool :=
  !outbound.isSettled departure.packet.source departure.packet.sequence

def flying (outbound : Outbound) (place : ChannelEnd) (sequence : UInt64) : Nat :=
  outbound.inFlight.entries.countP fun entry => entry.1.source = place ∧ entry.1.sequence = sequence

-- The books of one application that sent these packets and took note of the ends
-- of so many of them.
structure Booked (sent : List Departure) (closed : Nat) (outbound : Outbound) : Prop where
  numbered : ∀ place, (leaving place sent).map (·.packet.sequence.toNat) = List.range' 1 (leaving place sent).length
  counted : ∀ place, (outbound.next place).toNat = (leaving place sent).length + 1
  rows : outbound.inFlight.entries = (sent.filter outbound.opens).map fun departure => (departure.packet.id,departure.entry)
  known : ∀ place sequence, outbound.isSettled place sequence = true → sequence.toNat ≤ (leaving place sent).length
  balanced : outbound.pending + closed = sent.length

section
variable {sent : List Departure} {closed : Nat} {outbound : Outbound} {departure other : Departure} {packet : Packet}
  {place : ChannelEnd} {sequence : UInt64}

theorem new_booked : Booked [] 0 .new :=
  ⟨fun _ => rfl,fun _ => rfl,rfl,fun _ _ settled => (by cases settled),rfl⟩

theorem Booked.range (booked : Booked sent closed outbound) (present : departure ∈ sent) :
    1 ≤ departure.packet.sequence.toNat ∧
      departure.packet.sequence.toNat ≤ (leaving departure.packet.source sent).length := by
  have given : departure.packet.sequence.toNat ∈ (leaving departure.packet.source sent).map (·.packet.sequence.toNat) :=
    List.mem_map_of_mem (mem_leaving.mpr ⟨present,rfl⟩)
  rw [booked.numbered,List.mem_range'_1] at given
  omega

theorem Booked.distinct (booked : Booked sent closed outbound) (place : ChannelEnd) :
    ((leaving place sent).map (·.packet.sequence.toNat)).Nodup := by
  rw [booked.numbered]
  exact List.nodup_range'

theorem Booked.same (booked : Booked sent closed outbound) (one : departure ∈ sent) (two : other ∈ sent)
    (source : departure.packet.source = other.packet.source)
    (sequence : departure.packet.sequence = other.packet.sequence) : departure = other :=
  List.inj_on_of_nodup_map (booked.distinct other.packet.source) (mem_leaving.mpr ⟨one,source⟩)
    (mem_leaving.mpr ⟨two,rfl⟩) (congrArg UInt64.toNat sequence)

theorem Booked.inner (booked : Booked sent closed outbound) (few : (leaving place sent).length < UInt64.size - 2)
    (present : departure ∈ leaving place sent) : Inner departure.packet.sequence := by
  obtain ⟨inside,rfl⟩ := mem_leaving.mp present
  have low := (booked.range inside).2
  show departure.packet.sequence.toNat + 1 < UInt64.size
  omega

theorem Booked.positive (booked : Booked sent closed outbound) (present : departure ∈ sent) :
    departure.packet.sequence ≠ 0 := by
  intro nothing
  have low := (booked.range present).1
  rw [nothing] at low
  exact absurd low (by decide)

theorem Booked.flown {entry : InFlight} (booked : Booked sent closed outbound) (present : departure ∈ sent)
    (flying : outbound.inFlight.find departure.packet.id = some entry) :
    outbound.opens departure = true ∧ entry = departure.entry := by
  have listed := outbound.inFlight.find_listed flying
  rw [booked.rows] at listed
  obtain ⟨other,inside,row⟩ := List.mem_map.mp listed
  obtain ⟨one,opened⟩ := List.mem_filter.mp inside
  obtain ⟨same,cost⟩ := Prod.mk.inj row
  have again : other = departure :=
    booked.same one present (congrArg PacketId.source same) (congrArg PacketId.sequence same)
  subst again
  exact ⟨opened,cost.symm⟩

theorem Booked.sends (booked : Booked sent closed outbound)
    (sequence : departure.packet.sequence = outbound.next departure.packet.source)
    (few : (leaving departure.packet.source (sent ++ [departure])).length < UInt64.size - 2) :
    Booked (sent ++ [departure]) closed (outbound.send departure.packet departure.entry) := by
  -- The books know nothing under the new number: it is one past all that left by its end.
  have number : departure.packet.sequence.toNat = (leaving departure.packet.source sent).length + 1 := by
    rw [sequence]
    exact booked.counted _
  have inner : Inner departure.packet.sequence := by
    rw [leaving_here,List.length_append,List.length_singleton] at few
    show departure.packet.sequence.toNat + 1 < UInt64.size
    omega
  have opened : outbound.opens departure = true := by
    cases settled : outbound.isSettled departure.packet.source departure.packet.sequence with
    | false => exact congrArg (!·) settled
    | true =>
      have low := booked.known _ _ settled
      omega
  have fresh : departure.packet.id ∉ outbound.inFlight.entries.map Prod.fst := by
    rw [booked.rows,List.map_map]
    intro listed
    obtain ⟨other,inside,same⟩ := List.mem_map.mp listed
    have low := (booked.range (List.mem_filter.mp inside).1).2
    have source : other.packet.source = departure.packet.source := congrArg PacketId.source same
    have again : other.packet.sequence = departure.packet.sequence := congrArg PacketId.sequence same
    rw [source,again] at low
    omega
  have entered : (outbound.send departure.packet departure.entry).inFlight.entries =
      outbound.inFlight.entries ++ [(departure.packet.id,departure.entry)] := Table.replace_fresh _ fresh
  refine ⟨?_,?_,?_,?_,?_⟩
  · intro place
    by_cases here : departure.packet.source = place
    · subst here
      rw [leaving_here,List.map_append,booked.numbered,List.length_append,List.length_singleton,List.range'_concat,
        List.map_singleton,number,Nat.one_mul,Nat.add_comm]
    · rw [leaving_elsewhere here]
      exact booked.numbered place
  · intro place
    rw [send_next]
    by_cases here : departure.packet.source = place
    · subst here
      rw [if_pos rfl,leaving_here,List.length_append,List.length_singleton,← number]
      exact Sequence.next_toNat inner
    · rw [if_neg (Ne.symm here),leaving_elsewhere here]
      exact booked.counted place
  · have kept : (outbound.send departure.packet departure.entry).opens = outbound.opens := rfl
    rw [entered,kept,List.filter_append,List.filter_cons_of_pos opened,List.map_append,booked.rows]
    rfl
  · intro place sequence settled
    have low := booked.known place sequence settled
    rw [leaving_append,List.length_append]
    omega
  · have balanced := booked.balanced
    unfold Outbound.pending Table.size at balanced ⊢
    rw [entered,List.length_append,List.length_append,List.length_singleton,List.length_singleton]
    omega

theorem Booked.settles (booked : Booked sent closed outbound) (present : departure ∈ sent)
    (same : departure.packet.id = packet.id) (unsettled : outbound.isSettled packet.source packet.sequence = false)
    (few : ∀ place, (leaving place sent).length < UInt64.size - 2) : Booked sent (closed + 1) (outbound.settle packet) := by
  have source : departure.packet.source = packet.source := congrArg PacketId.source same
  have sequence : departure.packet.sequence = packet.sequence := congrArg PacketId.sequence same
  have opened : outbound.opens departure = true := by
    unfold opens
    rw [source,sequence,unsettled]
    rfl
  have row : (packet.id,departure.entry) ∈ outbound.inFlight.entries := by
    rw [booked.rows,← same]
    exact List.mem_map.mpr ⟨departure,List.mem_filter.mpr ⟨present,opened⟩,rfl⟩
  refine ⟨booked.numbered,booked.counted,?_,?_,?_⟩
  · show Table.remove packet.id outbound.inFlight.entries = _
    rw [Table.remove_filtered outbound.inFlight.distinct,booked.rows,List.filter_map,List.filter_filter]
    congr 1
    apply List.filter_congr
    intro other inside
    have settled : (outbound.settle packet).isSettled other.packet.source other.packet.sequence = true ↔
        outbound.isSettled other.packet.source other.packet.sequence = true ∨
          other.packet.source = packet.source ∧ other.packet.sequence = packet.sequence :=
      settle_settled (booked.inner (few _) (mem_leaving.mpr ⟨inside,rfl⟩)) (booked.positive inside)
    -- Packets that were sent are told apart by what they settle under.
    have apart : other.packet.id = packet.id ↔
        other.packet.source = packet.source ∧ other.packet.sequence = packet.sequence := by
      constructor
      · intro both
        exact ⟨congrArg PacketId.source both,congrArg PacketId.sequence both⟩
      · intro both
        rw [booked.same inside present (both.1.trans source.symm) (both.2.trans sequence.symm)]
        exact same
    rw [← apart] at settled
    unfold opens
    by_cases here : other.packet.id = packet.id
    · rw [settled.mpr (.inr here)]
      simp [here]
    · cases before : outbound.isSettled other.packet.source other.packet.sequence with
      | true =>
        rw [settled.mpr (.inl before)]
        simp
      | false =>
        have after : (outbound.settle packet).isSettled other.packet.source other.packet.sequence = false := by
          rw [Bool.eq_false_iff]
          intro now
          rcases settled.mp now with early | again
          · rw [before] at early
            cases early
          · exact here again
        rw [after]
        simp [here]
  · intro place number settled
    rcases settle_only settled with before | ⟨rfl,rfl⟩ | rfl
    · exact booked.known place number before
    · rw [← source,← sequence]
      exact (booked.range present).2
    · exact Nat.zero_le _
  · have shorter := Table.remove_length row
    have balanced := booked.balanced
    show (Table.remove packet.id outbound.inFlight.entries).length + (closed + 1) = _
    unfold Outbound.pending Table.size at balanced
    omega

theorem Booked.numbers (booked : Booked sent closed outbound) (place : ChannelEnd) (sequence : UInt64) :
    (leaving place sent).countP (fun departure => departure.packet.sequence = sequence) =
      if 1 ≤ sequence.toNat ∧ sequence.toNat ≤ (leaving place sent).length then 1 else 0 := by
  have counted : (leaving place sent).countP (fun departure => departure.packet.sequence = sequence) =
      (List.range' 1 (leaving place sent).length).count sequence.toNat := by
    rw [← booked.numbered,List.count,List.countP_map]
    apply List.countP_congr
    intro departure _
    simp [UInt64.toNat_inj]
  rw [counted]
  split
  · rename_i given
    exact List.count_eq_one_of_mem List.nodup_range' (List.mem_range'_1.mpr (by omega))
  · rename_i outside
    refine List.count_eq_zero_of_not_mem fun given => outside ?_
    have range := List.mem_range'_1.mp given
    omega

theorem Booked.flies (booked : Booked sent closed outbound) (place : ChannelEnd) (sequence : UInt64) :
    outbound.flying place sequence = if outbound.isSettled place sequence = true then 0
      else (leaving place sent).countP fun departure => departure.packet.sequence = sequence := by
  have here : outbound.flying place sequence = sent.countP fun departure =>
      decide (departure.packet.source = place ∧ departure.packet.sequence = sequence) && outbound.opens departure := by
    unfold flying
    rw [booked.rows,List.countP_map,List.countP_filter]
    rfl
  rw [here]
  split
  · rename_i settled
    rw [List.countP_eq_zero]
    intro departure _ open'
    simp only [Bool.and_eq_true,decide_eq_true_eq] at open'
    obtain ⟨⟨rfl,rfl⟩,opened⟩ := open'
    unfold opens at opened
    rw [settled] at opened
    cases opened
  · rename_i unsettled
    unfold leaving
    rw [List.countP_filter]
    apply List.countP_congr
    intro departure _
    simp only [Bool.and_eq_true,decide_eq_true_eq]
    constructor
    · intro parts
      exact ⟨parts.1.2,parts.1.1⟩
    · intro parts
      obtain ⟨rfl,rfl⟩ := parts
      exact ⟨⟨rfl,rfl⟩,by simpa [opens] using unsettled⟩

end
end Outbound

namespace Host
variable {host : Host} {request : Request} {requests : List Request} {sent : List Departure} {closed : Nat}

theorem step_booked (booked : Outbound.Booked sent closed host.chain.outbound) (running : request.restarts = false)
    (vouched : vouched sent host request = true)
    (few : ∀ place, (leaving place (sent ++ host.departed request)).length < UInt64.size - 2) :
    Outbound.Booked (sent ++ host.departed request) (closed + (host.concluded request).toList.length)
      (host.step request).2.chain.outbound := by
  cases host.step_shifts request with
  | still same unsent unreported =>
    rw [same,unsent,unreported,List.append_nil]
    exact booked
  | sends departure departed unreported leaves =>
    rw [departed] at few ⊢
    rw [leaves.booked,unreported]
    exact booked.sends leaves.sequence (few _)
  | settles packet unsent concluded transport unsettled same =>
    rw [unsent,List.append_nil] at few ⊢
    rw [same,concluded]
    obtain ⟨departure,present,known⟩ := vouched_known vouched transport (concluded_exact.mp concluded).1
    exact booked.settles present known unsettled few
  | renews config asked =>
    subst asked
    cases running

theorem run_booked (booked : Outbound.Booked sent closed host.chain.outbound)
    (running : ∀ request ∈ requests, request.restarts = false) (honest : faithful sent host requests = true)
    (few : ∀ place, (leaving place (sent ++ host.departures requests)).length < UInt64.size - 2) :
    Outbound.Booked (sent ++ host.departures requests) (closed + (host.conclusions requests).length)
      (host.run requests).2.chain.outbound := by
  induction requests generalizing host sent closed with
  | nil => simpa [departures,conclusions,run] using booked
  | cons request rest ih =>
    unfold faithful at honest
    rw [Bool.and_eq_true] at honest
    rw [departures,← List.append_assoc] at few
    have first := step_booked booked (running request List.mem_cons_self) honest.1 fun place => by
      have all := few place
      rw [leaving_append,List.length_append] at all
      omega
    have later := ih first (fun other present => running other (List.mem_cons_of_mem _ present)) honest.2 few
    rw [departures,conclusions,run_cons,← List.append_assoc,List.length_append,← Nat.add_assoc]
    exact later

theorem reached_booked (new : host.chain.outbound = .new) (running : ∀ request ∈ requests, request.restarts = false)
    (honest : faithful [] host requests = true)
    (few : ∀ place, (leaving place (host.departures requests)).length < UInt64.size - 2) :
    Outbound.Booked (host.departures requests) (host.conclusions requests).length
      (host.run requests).2.chain.outbound := by
  have start : Outbound.Booked [] 0 host.chain.outbound := new ▸ Outbound.new_booked
  have reached := run_booked start running honest (by simpa using few)
  rwa [List.nil_append,Nat.zero_add] at reached

theorem books_complete (host : Host) (requests : List Request) (new : host.chain.outbound = .new)
    (running : ∀ request ∈ requests, request.restarts = false) (honest : faithful [] host requests = true)
    (few : ∀ place, (leaving place (host.departures requests)).length < UInt64.size - 2) :
    let sent := host.departures requests
    let books := (host.run requests).2.chain.outbound
    (∀ place, (leaving place sent).map (·.packet.sequence.toNat) = List.range' 1 (leaving place sent).length ∧
      (books.next place).toNat = 1 + (leaving place sent).length ∧
      (∀ sequence, 1 ≤ sequence → sequence < books.next place →
        books.isSettled place sequence = true ∧ books.flying place sequence = 0 ∨
          books.isSettled place sequence = false ∧ books.flying place sequence = 1) ∧
      ∀ sequence, books.next place ≤ sequence →
        books.isSettled place sequence = false ∧ books.flying place sequence = 0) ∧
      books.pending + (host.conclusions requests).length = sent.length ∧ books.pending = sent.countP books.opens := by
  intro sent books
  have booked : Outbound.Booked sent (host.conclusions requests).length books := reached_booked new running honest few
  refine ⟨fun place => ⟨booked.numbered place,(booked.counted place).trans (Nat.add_comm _ _),?_,?_⟩,booked.balanced,?_⟩
  · intro sequence low high
    have given : 1 ≤ sequence.toNat ∧ sequence.toNat ≤ (leaving place sent).length := by
      have next := booked.counted place
      rw [UInt64.le_iff_toNat_le] at low
      rw [UInt64.lt_iff_toNat_lt] at high
      exact ⟨low,by omega⟩
    have flies := booked.flies place sequence
    rw [booked.numbers,if_pos given] at flies
    cases settled : books.isSettled place sequence with
    | true => exact .inl ⟨rfl,by rw [flies,if_pos settled]⟩
    | false => exact .inr ⟨rfl,by rw [flies,settled]; rfl⟩
  · intro sequence high
    have beyond : (leaving place sent).length < sequence.toNat := by
      have next := booked.counted place
      rw [UInt64.le_iff_toNat_le] at high
      omega
    have unsettled : books.isSettled place sequence = false := by
      rw [Bool.eq_false_iff]
      intro settled
      have low := booked.known place sequence settled
      omega
    have outside : ¬(1 ≤ sequence.toNat ∧ sequence.toNat ≤ (leaving place sent).length) := by omega
    have flies := booked.flies place sequence
    rw [booked.numbers,if_neg outside,ite_self] at flies
    exact ⟨unsettled,flies⟩
  · show books.inFlight.entries.length = _
    rw [booked.rows,List.length_map,List.countP_eq_length_filter]

def guest : Address := ⟨List.replicate 20 1,rfl⟩

def stones (n : Nat) : Amount := (Amount.ofNat? n).getD .zero

def opening : List Request :=
  [.setOperator relay relay,.setEscrow relay "channel-0" ⟨List.replicate 20 9,rfl⟩,
    .openChannel relay reported.source reported.destination,.mint relay guest "stone" (stones 9)]

def delivery (n : Nat) : Request := .send guest ⟨reported.source,"stone",stones n,relay.text,"",.zero,0⟩

-- A relay sends twice for its guest: the guest calls the first packet expired in
-- vain, and the relay the second one with success.
def expiryErrand : List Request :=
  opening ++ [delivery 4,.timeout guest reported,delivery 5,.timeout relay {reported with sequence := 2}]

theorem leaving_few {sent : List Departure} (few : sent.length < UInt64.size - 2) (place : ChannelEnd) :
    (leaving place sent).length < UInt64.size - 2 := Nat.lt_of_le_of_lt (List.length_filter_le _ _) few

theorem expiryErrand_honest :
    (∀ request ∈ expiryErrand, request.restarts = false) ∧ faithful [] relayed expiryErrand = true ∧
      (relayed.departures expiryErrand).length = 2 ∧
      ∀ place, (leaving place (relayed.departures expiryErrand)).length < UInt64.size - 2 := by
  have facts : (∀ request ∈ expiryErrand, request.restarts = false) ∧ faithful [] relayed expiryErrand = true ∧
      (relayed.departures expiryErrand).length = 2 := by decide +kernel
  obtain ⟨running,honest,count⟩ := facts
  exact ⟨running,honest,count,leaving_few (by rw [count]; decide)⟩

theorem books_complete_errand :
    relayed.chain.outbound = .new ∧ (∀ request ∈ expiryErrand, request.restarts = false) ∧
      faithful [] relayed expiryErrand = true ∧
      (∀ place, (leaving place (relayed.departures expiryErrand)).length < UInt64.size - 2) ∧
      let books := (relayed.run expiryErrand).2.chain.outbound
      books.isSettled reported.source 2 = true ∧ books.flying reported.source 1 = 1 ∧
        books.pending + (relayed.conclusions expiryErrand).length = 2 ∧
        (books.next reported.source).toNat = 1 + (leaving reported.source (relayed.departures expiryErrand)).length := by
  obtain ⟨running,honest,count,few⟩ := expiryErrand_honest
  have facts : (relayed.run expiryErrand).2.chain.outbound.isSettled reported.source 2 = true ∧
      (relayed.run expiryErrand).2.chain.outbound.flying reported.source 1 = 1 := by decide +kernel
  obtain ⟨settled,flying⟩ := facts
  have complete := books_complete relayed expiryErrand rfl running honest few
  exact ⟨rfl,running,honest,few,settled,flying,complete.2.1.trans count,(complete.1 reported.source).2.1⟩

end Host
end TokenTransfer
