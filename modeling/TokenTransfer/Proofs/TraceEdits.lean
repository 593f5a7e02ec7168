import TokenTransfer.Proofs.Traces

namespace TokenTransfer

-- What is done to a denomination on its way: a hop is gained, dropped where it is the
-- newest, or only asked about.
inductive Edit where
  | gain (place : ChannelEnd)
  | drop (place : ChannelEnd)
  | ask (place : ChannelEnd)
deriving DecidableEq

def Edit.place : Edit → ChannelEnd
  | .gain place | .drop place | .ask place => place

def Denomination.edited (denom : String) : Edit → String
  | .gain place => wrap place denom
  | .drop place => (unwrap? place denom).getD denom
  | .ask _ => denom

namespace Trace
open Denomination
variable {place : ChannelEnd} {denom rest : String} {trace : Trace} {edit : Edit} {edits : List Edit}

def edited (trace : Trace) : Edit → Trace
  | .gain place => trace.add place
  | .drop place => (trace.remove place).2
  | .ask _ => trace

theorem remove_carried (formed : trace.Formed) (plain : place.Plain) (found : unwrap? place trace.text = some rest) :
    (trace.remove place).1 = true ∧ (trace.remove place).2.text = rest := by
  have carried : carries place trace.text = true := by
    unfold carries
    rw [found]
    rfl
  have starts : trace.startsWith place = true := (startsWith_carries formed plain).trans carried
  obtain ⟨hops,base⟩ := trace
  cases hops with
  | nil => cases starts
  | cons hop hops =>
    have newest : hop = place := by simpa [startsWith] using starts
    rw [text_cons,newest,unwrap_wrap] at found
    unfold remove
    rw [if_pos starts]
    exact ⟨rfl,Option.some.inj found⟩

theorem remove_foreign (formed : trace.Formed) (plain : place.Plain) (strange : unwrap? place trace.text = none) :
    trace.remove place = (false,trace) := by
  have foreign : trace.startsWith place = false := by
    rw [startsWith_carries formed plain]
    unfold carries
    rw [strange]
    rfl
  unfold remove
  rw [if_neg (by simp [foreign])]

theorem Formed.remove (formed : trace.Formed) (place : ChannelEnd) : (trace.remove place).2.Formed := by
  unfold Trace.remove
  split
  · exact formed.tail
  · exact formed

theorem edited_formed (formed : trace.Formed) (plain : edit.place.Plain) : (trace.edited edit).Formed := by
  cases edit with
  | gain place => exact formed.add plain
  | drop place => exact formed.remove place
  | ask place => exact formed

theorem edited_text (formed : trace.Formed) (plain : edit.place.Plain) :
    (trace.edited edit).text = Denomination.edited trace.text edit := by
  cases edit with
  | gain place => rfl
  | drop place =>
    rw [Trace.edited,Denomination.edited]
    cases found : unwrap? place trace.text with
    | some rest => exact (remove_carried formed plain found).2
    | none => exact congrArg (fun result => result.2.text) (remove_foreign formed plain found)
  | ask place => rfl

theorem edits_formed (formed : trace.Formed) (plain : ∀ edit ∈ edits, edit.place.Plain) :
    (edits.foldl Trace.edited trace).Formed ∧
      (edits.foldl Trace.edited trace).text = edits.foldl Denomination.edited trace.text := by
  induction edits generalizing trace with
  | nil => exact ⟨formed,rfl⟩
  | cons edit edits ih =>
    have here := plain edit List.mem_cons_self
    have later := ih (edited_formed formed here) fun other present => plain other (List.mem_cons_of_mem _ present)
    rw [edited_text formed here] at later
    exact later

theorem edits_agree (denom : String) (edits : List Edit) (plain : ∀ edit ∈ edits, edit.place.Plain) :
    let trace := edits.foldl Trace.edited (read denom)
    let name := edits.foldl Denomination.edited denom
    trace.text = name ∧ read trace.text = trace ∧
      ∀ place : ChannelEnd, place.Plain →
        (trace.startsWith place = true ↔ carries place trace.text = true) ∧
        (trace.add place).text = wrap place trace.text ∧
        ((trace.remove place).1 = true ↔ (unwrap? place trace.text).isSome = true) ∧
        (∀ rest, unwrap? place trace.text = some rest → (trace.remove place).2.text = rest) ∧
        (unwrap? place trace.text = none → (trace.remove place).2 = trace) := by
  intro trace name
  obtain ⟨formed,text⟩ := edits_formed (read_formed denom) plain
  rw [text_read] at text
  refine ⟨text,read_text formed,fun place here => ⟨?_,text_add trace place,?_,?_,?_⟩⟩
  · exact Bool.eq_iff_iff.mp (startsWith_carries formed here)
  · cases found : unwrap? place trace.text with
    | some rest => exact iff_of_true (remove_carried formed here found).1 rfl
    | none =>
      rw [remove_foreign formed here found]
      exact iff_of_false nofun nofun
  · exact fun rest found => (remove_carried formed here found).2
  · exact fun strange => congrArg Prod.snd (remove_foreign formed here strange)

-- A base that looks like half a hop is never taken for one, with nameless ends around it.
def reroute : List Edit := [.drop ⟨"",""⟩,.drop ⟨"a","b"⟩,.gain ⟨"a","b"⟩,.ask ⟨"",""⟩,.gain ⟨"",""⟩]

theorem edits_agree_reroute :
    (∀ edit ∈ reroute, edit.place.Plain) ∧ ChannelEnd.Plain ⟨"",""⟩ ∧
      let trace := reroute.foldl Trace.edited (read "//a/b")
      trace.hops = [⟨"",""⟩,⟨"a","b"⟩] ∧ trace.text = "//a/b/a/b" ∧ read trace.text = trace ∧
        carries ⟨"",""⟩ trace.text = true ∧ (trace.add ⟨"",""⟩).text = "////a/b/a/b" ∧
        (trace.remove ⟨"",""⟩).2.text = "a/b/a/b" ∧ (trace.remove ⟨"a","b"⟩).2 = trace := by
  have plain : ∀ edit ∈ reroute, edit.place.Plain := by decide
  have nameless : ChannelEnd.Plain ⟨"",""⟩ := by decide
  obtain ⟨text,again,agree⟩ := edits_agree "//a/b" reroute plain
  have name : reroute.foldl Denomination.edited "//a/b" = "//a/b/a/b" := by decide
  rw [name] at text
  obtain ⟨starts,added,_,removed,_⟩ := agree ⟨"",""⟩ nameless
  obtain ⟨_,_,_,_,kept⟩ := agree ⟨"a","b"⟩ (by decide)
  rw [text] at starts added removed kept
  refine ⟨plain,nameless,by decide,text,again,?_,added,removed _ (by decide),kept (by decide)⟩
  rw [text]
  exact starts.mp (by decide)

end Trace
end TokenTransfer
