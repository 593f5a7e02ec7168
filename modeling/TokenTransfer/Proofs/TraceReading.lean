import TokenTransfer.Proofs.Traces

namespace TokenTransfer.Trace

structure Cursor where
  taken : List ChannelEnd
  position : Nat
deriving DecidableEq

-- What one look at the pieces comes to. Counting below zero and taking a piece that is
-- not there have no answer: they leave the reader stuck.
inductive Move where
  | on (next : Cursor)
  | done (trace : Trace)
  | stuck
deriving DecidableEq

def left? (pieces : List (List Char)) (position : Nat) : Option Nat :=
  if position ≤ pieces.length then some (pieces.length - position) else none

namespace Cursor

def start : Cursor := ⟨[],0⟩

-- Two pieces are taken as a hop while a third is there for the base, and what is left
-- in the end is the base.
def move (pieces : List (List Char)) (cursor : Cursor) : Move :=
  match left? pieces cursor.position with
  | none => .stuck
  | some left =>
    if 3 ≤ left then
      match pieces[cursor.position]?,pieces[cursor.position+1]? with
      | some port,some channel =>
        .on ⟨cursor.taken ++ [⟨String.ofList port,String.ofList channel⟩],cursor.position+2⟩
      | _,_ => .stuck
    else .done ⟨cursor.taken,String.ofList (join (pieces.drop cursor.position))⟩

end Cursor

inductive Visited (pieces : List (List Char)) : Cursor → Prop where
  | start : Visited pieces .start
  | on {cursor next : Cursor} (visited : Visited pieces cursor) (moved : cursor.move pieces = .on next) :
      Visited pieces next

inductive Reading (pieces : List (List Char)) : Nat → Cursor → Trace → Prop where
  | done {cursor : Cursor} {trace : Trace} (last : cursor.move pieces = .done trace) : Reading pieces 0 cursor trace
  | on {turns : Nat} {cursor next : Cursor} {trace : Trace} (moved : cursor.move pieces = .on next)
      (rest : Reading pieces turns next trace) : Reading pieces (turns+1) cursor trace

variable {pieces few : List (List Char)} {cursor : Cursor}

theorem move_within (within : cursor.position ≤ pieces.length) :
    cursor.move pieces ≠ .stuck ∧ ∀ next, cursor.move pieces = .on next → next.position ≤ pieces.length := by
  unfold Cursor.move left?
  rw [if_pos within]
  dsimp only
  split
  · rename_i enough
    have first : cursor.position < pieces.length := by omega
    have second : cursor.position + 1 < pieces.length := by omega
    rw [List.getElem?_eq_getElem first,List.getElem?_eq_getElem second]
    refine ⟨nofun,fun next moved => ?_⟩
    cases moved
    show cursor.position + 2 ≤ pieces.length
    omega
  · exact ⟨nofun,nofun⟩

theorem visited_within (visited : Visited pieces cursor) : cursor.position ≤ pieces.length := by
  induction visited with
  | start => exact Nat.zero_le _
  | on visited moved ih => exact (move_within ih).2 _ moved

theorem left_behind (before ahead : List (List Char)) : left? (before ++ ahead) before.length = some ahead.length := by
  unfold left?
  rw [List.length_append,if_pos (Nat.le_add_right _ _),Nat.add_sub_cancel_left]

theorem move_on (taken : List ChannelEnd) (before : List (List Char)) (port channel third : List Char)
    (others : List (List Char)) :
    Cursor.move (before ++ port :: channel :: third :: others) ⟨taken,before.length⟩ =
      .on ⟨taken ++ [⟨String.ofList port,String.ofList channel⟩],(before ++ [port,channel]).length⟩ := by
  have enough : 3 ≤ (port :: channel :: third :: others).length := by simp
  simp only [Cursor.move,left_behind]
  rw [if_pos enough]
  simp

theorem move_done (taken : List ChannelEnd) (before : List (List Char)) (short : few.length < 3) :
    Cursor.move (before ++ few) ⟨taken,before.length⟩ = .done ⟨taken,String.ofList (join few)⟩ := by
  simp only [Cursor.move,left_behind]
  rw [if_neg (Nat.not_le.mpr short),List.drop_left]

theorem few_pieces (short : ∀ port channel next others, few = port :: channel :: next :: others → False) :
    few.length < 3 := by
  match few with
  | [] | [_] | [_,_] => simp
  | port :: channel :: next :: others => exact (short port channel next others rfl).elim

-- From wherever it stands a reading takes what is ahead of it, one turn a hop.
theorem reading_ahead (taken : List ChannelEnd) (before ahead : List (List Char)) :
    Reading (before ++ ahead) (ofSegments ahead).hops.length ⟨taken,before.length⟩
      ⟨taken ++ (ofSegments ahead).hops,(ofSegments ahead).base⟩ := by
  induction ahead using ofSegments.induct generalizing taken before with
  | case1 port channel third others ih =>
    have behind := ih (taken ++ [⟨String.ofList port,String.ofList channel⟩]) (before ++ [port,channel])
    rw [List.append_assoc,List.append_assoc] at behind
    rw [ofSegments]
    exact .on (move_on taken before port channel third others) behind
  | case2 few short =>
    rw [ofSegments]
    · dsimp only
      rw [List.append_nil]
      exact .done (move_done taken before (few_pieces short))
    · exact short

theorem hops_length (pieces : List (List Char)) : (ofSegments pieces).hops.length = (pieces.length - 1) / 2 := by
  induction pieces using ofSegments.induct with
  | case1 port channel third others ih =>
    rw [ofSegments,List.length_cons,ih]
    simp only [List.length_cons]
    omega
  | case2 few short =>
    have small := few_pieces short
    rw [ofSegments]
    · show 0 = (few.length - 1) / 2
      omega
    · exact short

theorem read_hops_length (denom : String) : (read denom).hops.length = denom.toList.count '/' / 2 := by
  unfold read
  rw [hops_length,segments_length,Nat.add_sub_cancel]

theorem reading_lossless (denom : String) :
    let pieces := segments denom.toList
    let slashes := denom.toList.count '/'
    (∀ cursor, Visited pieces cursor → cursor.move pieces ≠ .stuck ∧ cursor.position ≤ pieces.length) ∧
      Reading pieces (slashes / 2) .start (read denom) ∧
      (read denom).text = denom ∧
      (∀ hop ∈ (read denom).hops, '/' ∉ hop.port.toList ∧ '/' ∉ hop.channel.toList) ∧
      (read denom).base.toList.count '/' ≤ 1 ∧
      (read denom).hops.length = slashes / 2 := by
  intro pieces slashes
  have formed := read_formed denom
  have counted := read_hops_length denom
  refine ⟨fun cursor visited => ?_,?_,text_read denom,formed.plain,formed.base,counted⟩
  · have within := visited_within visited
    exact ⟨(move_within within).1,within⟩
  · have read := reading_ahead [] [] pieces
    rw [← counted]
    exact read

theorem reading_lossless_nameless :
    let pieces := segments "//a//".toList
    Visited pieces ⟨[⟨"",""⟩],2⟩ ∧ Cursor.move pieces ⟨[⟨"",""⟩],2⟩ ≠ .stuck ∧
      Reading pieces 2 .start ⟨[⟨"",""⟩,⟨"a",""⟩],""⟩ ∧ Trace.text ⟨[⟨"",""⟩,⟨"a",""⟩],""⟩ = "//a//" ∧
      ChannelEnd.mk "a" "" ∈ (read "//a//").hops ∧ '/' ∉ "a".toList := by
  intro pieces
  obtain ⟨visits,reading,text,plain,_,_⟩ := reading_lossless "//a//"
  have found : read "//a//" = ⟨[⟨"",""⟩,⟨"a",""⟩],""⟩ := by decide
  have visited : Visited pieces ⟨[⟨"",""⟩],2⟩ := .on .start (by decide)
  have present : ChannelEnd.mk "a" "" ∈ (read "//a//").hops := by decide
  rw [found] at reading text
  exact ⟨visited,(visits _ visited).1,reading,text,present,(plain _ present).1⟩

end TokenTransfer.Trace
