import TokenTransfer.Packet
import TokenTransfer.Table

namespace TokenTransfer

namespace Sequence

def next (sequence : UInt64) : UInt64 :=
  if sequence.toNat + 1 < UInt64.size then sequence + 1 else sequence

def insert (sequence : UInt64) (sequences : List UInt64) : List UInt64 :=
  sequences.filter (· < sequence) ++ sequence :: sequences.filter (sequence < ·)

theorem mem_insert {sequence other : UInt64} {sequences : List UInt64} :
    other ∈ insert sequence sequences ↔ other = sequence ∨ other ∈ sequences := by
  simp only [insert,List.mem_append,List.mem_cons,List.mem_filter,decide_eq_true_eq]
  constructor
  · rintro (smaller | same | larger)
    · exact .inr smaller.1
    · exact .inl same
    · exact .inr larger.1
  · rintro (same | present)
    · exact .inr (.inl same)
    · have compared := Nat.lt_trichotomy other.toNat sequence.toNat
      rw [← UInt64.lt_iff_toNat_lt,UInt64.toNat_inj,← UInt64.lt_iff_toNat_lt] at compared
      rcases compared with smaller | same | larger
      · exact .inl ⟨present,smaller⟩
      · exact .inr (.inl same)
      · exact .inr (.inr ⟨present,larger⟩)

theorem insert_ascending (sequence : UInt64) {sequences : List UInt64}
    (ascending : sequences.Pairwise (· < ·)) : (insert sequence sequences).Pairwise (· < ·) := by
  have larger : ∀ b ∈ sequences.filter (sequence < ·), sequence < b := fun b present => by
    simpa using (List.mem_filter.mp present).2
  refine List.pairwise_append.mpr ⟨ascending.filter _,List.pairwise_cons.mpr ⟨larger,ascending.filter _⟩,?_⟩
  intro a smaller b present
  have below : a < sequence := by simpa using (List.mem_filter.mp smaller).2
  cases present with
  | head => exact below
  | tail _ later => exact UInt64.lt_trans below (larger b later)

end Sequence

-- All below the watermark are settled, and the ones listed ahead of it. A gap
-- that closes moves the watermark past what stands behind it.
structure SettledWindow where
  watermark : UInt64
  ahead : List UInt64
  ascending : ahead.Pairwise (· < ·)
deriving DecidableEq

namespace SettledWindow

def new : SettledWindow := ⟨1,[],.nil⟩

def contains (window : SettledWindow) (sequence : UInt64) : Bool :=
  sequence < window.watermark || window.ahead.contains sequence

def advance : Nat → SettledWindow → SettledWindow
  | 0,window => window
  | steps+1,window =>
    if window.watermark ∈ window.ahead then
      advance steps ⟨Sequence.next window.watermark,window.ahead.erase window.watermark,
        window.ascending.sublist List.erase_sublist⟩
    else window

-- Each advance takes one listed sequence away, so their number is enough steps.
def insert (window : SettledWindow) (sequence : UInt64) : SettledWindow :=
  let ahead := Sequence.insert sequence window.ahead
  advance ahead.length ⟨window.watermark,ahead,Sequence.insert_ascending sequence window.ascending⟩

end SettledWindow

structure Outbound where
  sequences : Table ChannelEnd UInt64
  inFlight : Table PacketId InFlight
  settled : Table ChannelEnd SettledWindow
deriving DecidableEq

namespace Outbound

def new : Outbound := ⟨.empty,.empty,.empty⟩

def next (outbound : Outbound) (place : ChannelEnd) : UInt64 := (outbound.sequences.find place).getD 1

def window (outbound : Outbound) (place : ChannelEnd) : SettledWindow :=
  (outbound.settled.find place).getD .new

-- An end on which nothing settled yet has settled no sequence, not even zero.
def isSettled (outbound : Outbound) (place : ChannelEnd) (sequence : UInt64) : Bool :=
  match outbound.settled.find place with
  | none => false
  | some window => window.contains sequence

def settle (outbound : Outbound) (packet : Packet) : Outbound :=
  {outbound with
    inFlight := outbound.inFlight.erase packet.id
    settled := outbound.settled.put packet.source ((outbound.window packet.source).insert packet.sequence)}

def send (outbound : Outbound) (packet : Packet) (entry : InFlight) : Outbound :=
  {outbound with
    sequences := outbound.sequences.put packet.source (Sequence.next packet.sequence)
    inFlight := outbound.inFlight.put packet.id entry}

def pending (outbound : Outbound) : Nat := outbound.inFlight.size

def outOfOrder (outbound : Outbound) (place : ChannelEnd) : Nat := (outbound.window place).ahead.length

end Outbound
end TokenTransfer
