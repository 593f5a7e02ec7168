import TokenTransfer.Proofs.Denominations
import TokenTransfer.Trace

namespace TokenTransfer

-- An end whose identifiers hold no slash. Only of such ends can it be told where
-- the identifiers stop in a denomination.
def ChannelEnd.Plain (place : ChannelEnd) : Prop := '/' ∉ place.port.toList ∧ '/' ∉ place.channel.toList

instance (place : ChannelEnd) : Decidable place.Plain := inferInstanceAs (Decidable (_ ∧ _))

namespace Trace
open Denomination
variable {place other : ChannelEnd} {denom : String} {trace : Trace}

theorem segments_filled (text : List Char) : ∃ first others, segments text = first :: others := by
  cases text with
  | nil => exact ⟨[],[],rfl⟩
  | cons c rest =>
    rw [segments]
    split
    · exact ⟨_,_,rfl⟩
    · split <;> exact ⟨_,_,rfl⟩

theorem segments_piece {piece : List Char} (plain : '/' ∉ piece) (rest : List Char) :
    segments (piece ++ '/' :: rest) = piece :: segments rest := by
  induction piece with
  | nil => rfl
  | cons c piece ih =>
    rw [List.mem_cons,not_or] at plain
    rw [List.cons_append,segments,if_neg (Ne.symm plain.1),ih plain.2]

theorem segments_wrap (plain : place.Plain) (denom : String) : segments (wrap place denom).toList =
    place.port.toList :: place.channel.toList :: segments denom.toList := by
  have spelled : (wrap place denom).toList =
      place.port.toList ++ '/' :: (place.channel.toList ++ '/' :: denom.toList) := by
    simp [wrap,ChannelEnd.hop,ChannelEnd.path]
  rw [spelled,segments_piece plain.1,segments_piece plain.2]

theorem carries_plain (one : place.Plain) (two : other.Plain) :
    carries place (wrap other denom) = true ↔ place = other := by
  constructor
  · intro carried
    obtain ⟨rest,same⟩ := carries_exact.mp carried
    have cut := congrArg (fun name => segments name.toList) same
    simp only [segments_wrap one,segments_wrap two,List.cons.injEq,String.toList_inj] at cut
    obtain ⟨port,channel,_⟩ := cut
    cases place
    cases other
    simp only at port channel
    rw [port,channel]
  · intro same
    rw [same,carries_wrap]

theorem read_wrap (plain : place.Plain) (denom : String) : read (wrap place denom) = (read denom).add place := by
  obtain ⟨first,others,cut⟩ := segments_filled denom.toList
  unfold read
  rw [segments_wrap plain,cut,ofSegments,String.ofList_toList,String.ofList_toList]
  rfl

theorem segments_plain {text piece : List Char} (present : piece ∈ segments text) : '/' ∉ piece := by
  induction text generalizing piece with
  | nil =>
    rw [List.mem_singleton.mp present]
    exact List.not_mem_nil
  | cons c rest ih =>
    rw [segments] at present
    split at present
    · cases present with
      | head => exact List.not_mem_nil
      | tail _ later => exact ih later
    · rename_i other
      obtain ⟨first,others,cut⟩ := segments_filled rest
      rw [cut] at present ih
      cases present with
      | head =>
        rw [List.mem_cons,not_or]
        exact ⟨Ne.symm other,ih List.mem_cons_self⟩
      | tail _ later => exact ih (List.mem_cons_of_mem _ later)

theorem join_segments (text : List Char) : join (segments text) = text := by
  induction text with
  | nil => rfl
  | cons c rest ih =>
    obtain ⟨first,others,cut⟩ := segments_filled rest
    rw [segments,cut]
    rw [cut] at ih
    split
    · rename_i slash
      rw [join,ih,slash]
      rfl
    · cases others with
      | nil => rw [join,← ih,join]
      | cons second more => rw [join,List.cons_append,← ih,join]

theorem segments_length (text : List Char) : (segments text).length = text.count '/' + 1 := by
  induction text with
  | nil => rfl
  | cons c rest ih =>
    obtain ⟨first,others,cut⟩ := segments_filled rest
    rw [segments,cut]
    rw [cut,List.length_cons] at ih
    split
    · rename_i slash
      rw [slash,List.count_cons_self]
      simpa using ih
    · rename_i other
      rw [List.count_cons_of_ne other]
      simpa using ih

-- What reading makes of a denomination: plain hops, and a base with too few slashes to
-- be cut any further.
structure Formed (trace : Trace) : Prop where
  plain : ∀ hop ∈ trace.hops, hop.Plain
  base : trace.base.toList.count '/' ≤ 1

theorem Formed.add (formed : trace.Formed) (plain : place.Plain) : (trace.add place).Formed :=
  ⟨List.forall_mem_cons.mpr ⟨plain,formed.plain⟩,formed.base⟩

theorem Formed.tail (formed : trace.Formed) : Formed {trace with hops := trace.hops.tail} :=
  ⟨fun hop present => formed.plain hop (List.mem_of_mem_tail present),formed.base⟩

theorem text_add (trace : Trace) (place : ChannelEnd) : (trace.add place).text = wrap place trace.text := rfl

theorem text_cons (hops : List ChannelEnd) (base : String) :
    (Trace.mk (place :: hops) base).text = wrap place (Trace.mk hops base).text := rfl

theorem ofSegments_formed {pieces : List (List Char)} (plain : ∀ piece ∈ pieces, '/' ∉ piece) :
    (ofSegments pieces).Formed ∧ (ofSegments pieces).text = String.ofList (join pieces) := by
  induction pieces using ofSegments.induct with
  | case1 port channel next others ih =>
    obtain ⟨formed,text⟩ := ih fun piece present => plain piece (List.mem_cons_of_mem _ (List.mem_cons_of_mem _ present))
    have hop : ChannelEnd.Plain ⟨String.ofList port,String.ofList channel⟩ := by
      unfold ChannelEnd.Plain
      rw [String.toList_ofList,String.toList_ofList]
      exact ⟨plain port (by simp),plain channel (by simp)⟩
    rw [ofSegments]
    refine ⟨formed.add hop,?_⟩
    refine (text_add _ _).trans ?_
    rw [text,← String.toList_inj]
    simp [wrap,ChannelEnd.hop,ChannelEnd.path,join]
  | case2 few short =>
    have once : (join few).count '/' ≤ 1 := by
      match few with
      | [] => exact Nat.zero_le _
      | [last] =>
        rw [join,List.count_eq_zero_of_not_mem (plain last (by simp))]
        exact Nat.zero_le _
      | [first,last] =>
        have one := List.count_eq_zero_of_not_mem (plain first (by simp))
        have two := List.count_eq_zero_of_not_mem (plain last (by simp))
        have both : (join [first,last]).count '/' = 1 := by
          rw [join,join,List.count_append,List.count_cons_self,one,two]
        exact Nat.le_of_eq both
      | port :: channel :: next :: others => exact absurd rfl (short port channel next others)
    rw [ofSegments]
    · exact ⟨⟨nofun,by rwa [String.toList_ofList]⟩,rfl⟩
    · exact short

theorem read_formed (denom : String) : (read denom).Formed :=
  (ofSegments_formed fun _ present => segments_plain present).1

theorem text_read (denom : String) : (read denom).text = denom := by
  unfold read
  rw [(ofSegments_formed fun _ present => segments_plain present).2,join_segments,String.ofList_toList]

theorem read_base {base : String} (once : base.toList.count '/' ≤ 1) : read base = ⟨[],base⟩ := by
  have few : (segments base.toList).length ≤ 2 := by
    rw [segments_length]
    omega
  unfold read
  rw [ofSegments,join_segments,String.ofList_toList]
  intro port channel next others cut
  rw [cut] at few
  simp at few

theorem read_text (formed : trace.Formed) : read trace.text = trace := by
  obtain ⟨hops,base⟩ := trace
  induction hops with
  | nil => exact read_base formed.base
  | cons hop hops ih =>
    rw [text_cons,read_wrap (formed.plain hop List.mem_cons_self),ih formed.tail]
    rfl

theorem carries_slashes (carried : carries place denom = true) : 2 ≤ denom.toList.count '/' := by
  obtain ⟨rest,rfl⟩ := carries_exact.mp carried
  simp [wrap,ChannelEnd.hop,ChannelEnd.path]
  omega

theorem startsWith_carries (formed : trace.Formed) (plain : place.Plain) :
    trace.startsWith place = carries place trace.text := by
  obtain ⟨hops,base⟩ := trace
  rw [Bool.eq_iff_iff]
  cases hops with
  | nil =>
    refine iff_of_false nofun fun carried => ?_
    have twice := carries_slashes carried
    have once : base.toList.count '/' ≤ 1 := formed.base
    have bare : (Trace.mk [] base).text = base := rfl
    rw [bare] at twice
    omega
  | cons hop hops =>
    rw [text_cons,carries_plain plain (formed.plain hop List.mem_cons_self)]
    unfold startsWith
    rw [List.head?_cons,beq_iff_eq,Option.some.injEq]
    exact eq_comm

end Trace
end TokenTransfer
