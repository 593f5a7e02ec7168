import Mathlib.Data.Finset.Card
import Mathlib.Order.Bounds.Basic
import TokenTransfer.Proofs.Departures
import TokenTransfer.Proofs.Windows

namespace TokenTransfer

namespace SettledWindow
variable {window other : SettledWindow} {sequence value : UInt64} {values others passed : List UInt64}

theorem same_listed (watermark : other.watermark = window.watermark)
    (listed : ∀ sequence, sequence ∈ other.ahead ↔ sequence ∈ window.ahead) : other = window := by
  have perm : other.ahead.Perm window.ahead :=
    (List.perm_ext_iff_of_nodup (ascending_distinct other.ascending) (ascending_distinct window.ascending)).mpr listed
  have ahead : other.ahead = window.ahead :=
    perm.eq_of_pairwise (fun _ _ _ _ below above => absurd above (UInt64.lt_asymm below)) other.ascending window.ascending
  cases window
  cases other
  cases watermark
  cases ahead
  rfl

def Regular (values : List UInt64) : Prop := ∀ value ∈ values, value ≠ 0 ∧ Inner value

instance : Decidable (Regular values) := List.decidableBAll _ values

theorem Filled.least (filled : Filled values passed window) (regular : Regular values) :
    IsLeast {n : Nat | 0 < n ∧ ∀ value ∈ values, value.toNat ≠ n} window.watermark.toNat := by
  refine ⟨⟨?_,?_⟩,?_⟩
  · exact Nat.pos_of_ne_zero fun nothing => filled.positive (UInt64.toNat_inj.mp nothing)
  · intro value present same
    have here : value = window.watermark := UInt64.toNat_inj.mp same
    exact filled.gap (here ▸ present) (here ▸ (regular value present).2)
  · rintro n ⟨positive,missing⟩
    refine Nat.le_of_not_lt fun below => ?_
    have number : (UInt64.ofNat n).toNat = n := UInt64.toNat_ofNat_of_lt (below.trans window.watermark.toNat_lt_size)
    refine missing (.ofNat n) (filled.behind _ ?_ ?_) number
    · intro nothing
      rw [nothing] at number
      exact absurd number (Nat.ne_of_lt positive)
    · rw [UInt64.lt_iff_toNat_lt,number]
      exact below

theorem Filled.watermark_same (filled : Filled values passed window) {late : List UInt64}
    (again : Filled others late other) (regular : Regular values)
    (same : ∀ sequence, sequence ∈ others ↔ sequence ∈ values) : other.watermark = window.watermark := by
  have regular' : Regular others := fun value present => regular value ((same value).mp present)
  have least := again.least regular'
  simp only [same] at least
  exact UInt64.toNat_inj.mp (least.unique (filled.least regular))

theorem Filled.beyond (filled : Filled values [] window) :
    window.ahead.toFinset = values.toFinset.filter (window.watermark < ·) := by
  ext sequence
  rw [List.mem_toFinset,filled.listed,Finset.mem_filter,List.mem_toFinset]
  simp

theorem Filled.length (filled : Filled values [] window) :
    window.ahead.length = (values.toFinset.filter (window.watermark < ·)).card := by
  rw [← filled.beyond,List.toFinset_card_of_nodup (ascending_distinct window.ascending)]

theorem Filled.same (filled : Filled values [] window) (again : Filled others [] other) (regular : Regular values)
    (same : ∀ sequence, sequence ∈ others ↔ sequence ∈ values) : other = window := by
  have watermark : other.watermark = window.watermark := filled.watermark_same again regular same
  refine same_listed watermark fun sequence => ?_
  rw [filled.listed,again.listed,same,watermark]

theorem late_distinct (positive : ∀ value ∈ values, value ≠ 0) (distinct : values.Nodup) : new.late values = [] := by
  induction values using List.reverseRecOn with
  | nil => rfl
  | append_singleton values value ih =>
    have parts := List.nodup_append.mp distinct
    have early : new.late values = [] := ih (fun other present => positive other (List.mem_append_left _ present)) parts.1
    rw [late_append,early,List.nil_append,List.eq_nil_iff_forall_not_mem]
    intro sequence inside
    obtain ⟨same,below⟩ := mem_late_one.mp inside
    subst same
    have before : sequence ∈ values := (fill_filled values).behind sequence (positive sequence (by simp)) below
    exact parts.2.2 sequence before sequence (List.mem_singleton_self _) rfl

end SettledWindow

def numbersAt (place : ChannelEnd) (reports : List Packet) : List UInt64 :=
  (reports.filter fun packet => packet.source = place).map Packet.sequence

theorem numbersAt_append (place : ChannelEnd) (earlier later : List Packet) :
    numbersAt place (earlier ++ later) = numbersAt place earlier ++ numbersAt place later := by
  unfold numbersAt
  rw [List.filter_append,List.map_append]

namespace Outbound
open SettledWindow
variable {outbound : Outbound} {place : ChannelEnd} {sequence : UInt64} {packet : Packet} {seen : List UInt64}

theorem window_settle (outbound : Outbound) (packet : Packet) (place : ChannelEnd) :
    (outbound.settle packet).window place =
      if place = packet.source then (outbound.window place).insert packet.sequence else outbound.window place := by
  unfold Outbound.settle Outbound.window
  rw [Table.find_put]
  split
  · rename_i here
    rw [here]
    rfl
  · rfl

theorem unsettled_ahead (unsettled : outbound.isSettled place sequence = false) (positive : sequence ≠ 0) :
    ¬sequence < (outbound.window place).watermark := by
  unfold Outbound.isSettled at unsettled
  unfold Outbound.window
  intro passed
  cases found : outbound.settled.find place with
  | none =>
    rw [found,UInt64.lt_iff_toNat_lt] at passed
    exact positive (UInt64.toNat_inj.mp (Nat.lt_one_iff.mp passed))
  | some window =>
    rw [found] at unsettled passed
    have inside : window.contains sequence = true := contains_exact.mpr (.inl passed)
    exact absurd inside (by simp [unsettled])

structure Tracks (place : ChannelEnd) (seen : List UInt64) (outbound : Outbound) : Prop where
  filled : outbound.window place = SettledWindow.new.fill seen
  timely : ∀ sequence ∈ SettledWindow.new.late seen, sequence = 0

theorem Tracks.settles (tracks : Tracks place seen outbound)
    (unsettled : outbound.isSettled packet.source packet.sequence = false) :
    Tracks place (seen ++ numbersAt place [packet]) (outbound.settle packet) := by
  by_cases here : packet.source = place
  · have number : numbersAt place [packet] = [packet.sequence] := by simp [numbersAt,here]
    rw [here] at unsettled
    rw [number]
    refine ⟨?_,?_⟩
    · rw [window_settle,if_pos here.symm,tracks.filled,fill_append]
      rfl
    · intro sequence inside
      rw [late_append,List.mem_append,mem_late_one] at inside
      rcases inside with early | ⟨same,below⟩
      · exact tracks.timely sequence early
      · by_contra positive
        rw [← tracks.filled] at below
        exact unsettled_ahead (same ▸ unsettled) positive below
  · have number : numbersAt place [packet] = [] := by simp [numbersAt,here]
    rw [number,List.append_nil]
    refine ⟨?_,tracks.timely⟩
    rw [window_settle,if_neg (Ne.symm here)]
    exact tracks.filled

end Outbound

namespace Host
variable {host : Host} {request : Request} {requests : List Request} {place : ChannelEnd} {seen : List UInt64}

theorem step_tracks (tracks : Outbound.Tracks place seen host.chain.outbound) (running : request.restarts = false) :
    Outbound.Tracks place (seen ++ numbersAt place (host.concluded request).toList)
      (host.step request).2.chain.outbound := by
  cases host.step_shifts request with
  | still same unsent unreported =>
    rw [same,unreported,Option.toList_none,numbersAt,List.filter_nil,List.map_nil,List.append_nil]
    exact tracks
  | sends departure departed unreported leaves =>
    rw [leaves.booked,unreported,Option.toList_none,numbersAt,List.filter_nil,List.map_nil,List.append_nil]
    exact ⟨tracks.filled,tracks.timely⟩
  | settles packet unsent concluded transport unsettled same =>
    rw [same,concluded]
    exact tracks.settles unsettled
  | renews config asked =>
    subst asked
    cases running

theorem run_tracks (tracks : Outbound.Tracks place seen host.chain.outbound)
    (running : ∀ request ∈ requests, request.restarts = false) :
    Outbound.Tracks place (seen ++ numbersAt place (host.conclusions requests)) (host.run requests).2.chain.outbound := by
  induction requests generalizing host seen with
  | nil =>
    rw [conclusions,numbersAt,List.filter_nil,List.map_nil,List.append_nil]
    exact tracks
  | cons request rest ih =>
    rw [conclusions,run_cons,numbersAt_append,← List.append_assoc]
    exact ih (step_tracks tracks (running request List.mem_cons_self)) fun other present =>
      running other (List.mem_cons_of_mem _ present)

theorem reached_tracks (new : host.chain.outbound = .new) (running : ∀ request ∈ requests, request.restarts = false) :
    Outbound.Tracks place (numbersAt place (host.conclusions requests)) (host.run requests).2.chain.outbound := by
  have start : Outbound.Tracks place [] host.chain.outbound := new ▸ ⟨rfl,nofun⟩
  exact run_tracks start running

end Host

namespace SettledWindow

-- No run of an application repeats a sequence, as reports on what is settled are refused:
-- there a window is just the set of what was settled.
theorem fill_canonical (values : List UInt64) (regular : Regular values) :
    let window := new.fill values
    let beyond := values.toFinset.filter (window.watermark < ·)
    (∀ earlier value later, values = earlier ++ value :: later → ∀ drained,
      Drains ((new.fill earlier).entered value) drained ↔ drained = new.fill (earlier ++ [value])) ∧
      IsLeast {n : Nat | 0 < n ∧ ∀ value ∈ values, value.toNat ≠ n} window.watermark.toNat ∧
      (∀ sequence, sequence ∈ window.ahead ↔ sequence ∈ beyond ∨ sequence ∈ new.late values) ∧
      (∀ others, (∀ sequence, sequence ∈ others ↔ sequence ∈ values) →
        (new.fill others).watermark = window.watermark ∧
          (∀ sequence, (new.fill others).contains sequence = window.contains sequence) ∧
          (new.late others = [] → new.late values = [] → new.fill others = window)) ∧
      (values.Nodup → new.late values = []) ∧
      (new.late values = [] → window.ahead.toFinset = beyond ∧ window.ahead.length = beyond.card) ∧
      ∀ (host : Host) (requests : List Request) (place : ChannelEnd), host.chain.outbound = .new →
        (∀ request ∈ requests, request.restarts = false) → numbersAt place (host.conclusions requests) = values →
        let books := (host.run requests).2.chain.outbound
        new.late values = [] ∧ books.window place = window ∧ books.outOfOrder place = beyond.card := by
  intro window beyond
  have filled : Filled values (new.late values) window := fill_filled values
  refine ⟨?_,filled.least regular,?_,?_,?_,?_,?_⟩
  · intro earlier value later _ drained
    have drains := insert_drains (new.fill earlier) value
    rw [fill_append]
    constructor
    · exact drains.unique
    · rintro rfl
      exact drains
  · intro sequence
    rw [filled.listed,Finset.mem_filter,List.mem_toFinset]
  · intro others same
    have again : Filled others (new.late others) (new.fill others) := fill_filled others
    have watermark := filled.watermark_same again regular same
    refine ⟨watermark,?_,?_⟩
    · intro sequence
      rw [Bool.eq_iff_iff,filled.contains,again.contains,same,watermark]
    · intro timely timely'
      rw [timely] at again
      rw [timely'] at filled
      exact filled.same again regular same
  · exact late_distinct fun value present => (regular value present).1
  · intro timely
    rw [timely] at filled
    exact ⟨filled.beyond,filled.length⟩
  · intro host requests place empty running numbers books
    have tracks : Outbound.Tracks place values books := numbers ▸ Host.reached_tracks empty running
    -- Only sequence zero comes late in a run, and it is none of the values.
    have timely : new.late values = [] := by
      refine List.eq_nil_iff_forall_not_mem.mpr fun sequence inside => ?_
      exact (regular sequence (filled.low sequence inside).1).1 (tracks.timely sequence inside)
    rw [timely] at filled
    exact ⟨timely,tracks.filled,(congrArg (·.ahead.length) tracks.filled).trans filled.length⟩

def scrambled : List Request := [3,1,5,3,2].map Host.confirmation

theorem fill_canonical_scrambled :
    let values : List UInt64 := [3,1,5,2]
    let others : List UInt64 := [5,2,3,3,1]
    Regular values ∧ (∀ sequence, sequence ∈ others ↔ sequence ∈ values) ∧ values.Nodup ∧ new.late others = [] ∧
      Host.relayed.chain.outbound = .new ∧ (∀ request ∈ scrambled, request.restarts = false) ∧
      numbersAt Host.reported.source (Host.relayed.conclusions scrambled) = values ∧
      IsLeast {n : Nat | 0 < n ∧ ∀ value ∈ values, value.toNat ≠ n} 4 ∧ new.fill others = new.fill values ∧
      (Host.relayed.run scrambled).2.chain.outbound.outOfOrder Host.reported.source = 1 := by
  intro values others
  have regular : Regular values := by decide
  have same : ∀ sequence, sequence ∈ others ↔ sequence ∈ values := by grind
  have distinct : values.Nodup := by decide
  have timely : new.late others = [] := by decide
  have running : ∀ request ∈ scrambled, request.restarts = false := by decide
  have numbers : numbersAt Host.reported.source (Host.relayed.conclusions scrambled) = values := by decide +kernel
  obtain ⟨_,least,_,sets,once,_,runs⟩ := fill_canonical values regular
  have books := (runs Host.relayed scrambled Host.reported.source rfl running numbers).2.2
  exact ⟨regular,same,distinct,timely,rfl,running,numbers,least,(sets others same).2.2 timely (once distinct),books⟩

-- Behind the watermark a repeated sequence stays on the list. It is put in by no report,
-- but for sequence zero, which a window has passed before anything is settled.
theorem repeat_listed :
    (Regular [1,1] ∧ (∀ sequence : UInt64, sequence ∈ [1,1] ↔ sequence ∈ [1]) ∧ (new.fill [1,1]).ahead = [1] ∧
      (new.fill [1,1]).watermark = 2 ∧ new.fill [1,1] ≠ new.fill [1]) ∧
      let books := (Host.relayed.run [Host.confirmation 0]).2.chain.outbound
      (books.window Host.reported.source).watermark = 1 ∧ (books.window Host.reported.source).ahead = [0] ∧
        books.outOfOrder Host.reported.source = 1 := by
  have same : ∀ sequence : UInt64, sequence ∈ [1,1] ↔ sequence ∈ [1] := by simp
  have zero : let books := (Host.relayed.run [Host.confirmation 0]).2.chain.outbound
      (books.window Host.reported.source).watermark = 1 ∧ (books.window Host.reported.source).ahead = [0] ∧
        books.outOfOrder Host.reported.source = 1 := by decide +kernel
  exact ⟨⟨by decide,same,by decide,by decide,by decide⟩,zero⟩

end SettledWindow
end TokenTransfer
