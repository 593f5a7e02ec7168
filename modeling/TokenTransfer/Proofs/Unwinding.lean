import Mathlib.Data.List.Chain
import TokenTransfer.Proofs.Traces

namespace TokenTransfer

structure Hop where
  leaves : ChannelEnd
  arrives : ChannelEnd
deriving DecidableEq

namespace Denomination
variable {hop : Hop} {hops before after : List Hop} {denom : String}

-- What a denomination is called behind some hops, and what is left of it on the way
-- back, where every hop that was gained has to be found and taken off.
def travel (denom : String) (hops : List Hop) : String := hops.foldl (fun name hop => wrap hop.arrives name) denom

def unwind (denom : String) (hops : List Hop) : Option String :=
  hops.foldr (fun hop name => name.bind (unwrap? hop.arrives)) (some denom)

structure Onward (denom : String) (hops : List Hop) : Prop where
  plain : ∀ hop ∈ hops, hop.leaves.Plain ∧ hop.arrives.Plain
  start : ∀ hop ∈ hops.head?, carries hop.leaves denom = false
  turns : hops.IsChain fun hop next => next.leaves ≠ hop.arrives

theorem Onward.tail (onward : Onward denom (hop :: hops)) : Onward (wrap hop.arrives denom) hops := by
  obtain ⟨different,turns⟩ := List.isChain_cons.mp onward.turns
  have plain := fun next present => onward.plain next (List.mem_cons_of_mem _ present)
  refine ⟨plain,?_,turns⟩
  intro next first
  rw [Bool.eq_false_iff,Ne,Trace.carries_plain (plain next (List.mem_of_mem_head? first)).1
    (onward.plain hop List.mem_cons_self).2]
  exact different next first

theorem Onward.carries (onward : Onward denom (before ++ hop :: after)) :
    carries hop.leaves (travel denom before) = false := by
  induction before generalizing denom with
  | nil => exact onward.start hop rfl
  | cons earlier before ih => exact ih onward.tail

theorem travel_append (denom : String) (before after : List Hop) :
    travel denom (before ++ after) = travel (travel denom before) after := List.foldl_append

theorem travel_last (denom : String) (before : List Hop) (hop : Hop) :
    travel denom (before ++ [hop]) = wrap hop.arrives (travel denom before) := travel_append denom before [hop]

theorem unwind_travel (denom : String) (hops : List Hop) : unwind (travel denom hops) hops = some denom := by
  -- The first hop comes off last, from what the later ones leave of it.
  induction hops generalizing denom with
  | nil => rfl
  | cons hop hops ih =>
    have inner : unwind (travel (wrap hop.arrives denom) hops) hops = some (wrap hop.arrives denom) := ih _
    calc unwind (travel denom (hop :: hops)) (hop :: hops)
        = (unwind (travel (wrap hop.arrives denom) hops) hops).bind (unwrap? hop.arrives) := rfl
      _ = unwrap? hop.arrives (wrap hop.arrives denom) := by rw [inner,Option.bind_some]
      _ = some denom := unwrap_wrap _ _

theorem read_travel (denom : String) (plain : ∀ hop ∈ hops, hop.arrives.Plain) :
    Trace.read (travel denom hops) =
      ⟨(hops.map Hop.arrives).reverse ++ (Trace.read denom).hops,(Trace.read denom).base⟩ := by
  induction hops generalizing denom with
  | nil => rfl
  | cons hop hops ih =>
    have here := plain hop List.mem_cons_self
    have gained : Trace.read (travel denom (hop :: hops)) = Trace.read (travel (wrap hop.arrives denom) hops) := rfl
    rw [gained,ih _ fun next present => plain next (List.mem_cons_of_mem _ present),Trace.read_wrap here,Trace.add,
      List.map_cons,List.reverse_cons,List.append_assoc]
    rfl

theorem trip_unwound (denom : String) (hops : List Hop) (onward : Onward denom hops) :
    (∀ before hop after, hops = before ++ hop :: after →
      let outward := travel denom before
      let arrived := travel denom (before ++ [hop])
      arrived = wrap hop.arrives outward ∧
        leavesHome hop.leaves outward = true ∧ direction hop.leaves outward = .forwarded ∧
        leavesHome hop.arrives arrived = false ∧ direction hop.arrives arrived = .returning ∧
        unwrap? hop.arrives arrived = some outward) ∧
      unwind (travel denom hops) hops = some denom ∧
      Trace.read (travel denom hops) =
        ⟨(hops.map Hop.arrives).reverse ++ (Trace.read denom).hops,(Trace.read denom).base⟩ := by
  refine ⟨?_,unwind_travel denom hops,read_travel denom fun hop present => (onward.plain hop present).2⟩
  intro before hop after split outward arrived
  have foreign : carries hop.leaves outward = false := by
    rw [split] at onward
    exact onward.carries
  have gained : arrived = wrap hop.arrives outward := travel_last denom before hop
  have known : carries hop.arrives arrived = true := by rw [gained,carries_wrap]
  refine ⟨gained,?_,?_,?_,?_,?_⟩
  · exact leavesHome_exact.mpr foreign
  · simp only [direction,foreign,Bool.false_eq_true,if_false]
  · simp only [leavesHome,known,Bool.not_true]
  · simp only [direction,known,if_true]
  · rw [gained,unwrap_wrap]

-- Ends that begin alike, and a denomination that looks like the hop it leaves by.
def lookalikeDetour : List Hop :=
  [⟨⟨"transfer","channel-1"⟩,⟨"transfer","channel-10"⟩⟩,⟨⟨"transfer","channel-1"⟩,⟨"transfer","channel-1"⟩⟩,
    ⟨⟨"transfer","channel-10"⟩,⟨"","channel-1"⟩⟩]

theorem trip_unwound_detour : Onward "transfer/channel-1" lookalikeDetour ∧
    travel "transfer/channel-1" lookalikeDetour = "/channel-1/transfer/channel-1/transfer/channel-10/transfer/channel-1" ∧
    unwind (travel "transfer/channel-1" lookalikeDetour) lookalikeDetour = some "transfer/channel-1" ∧
    (Trace.read (travel "transfer/channel-1" lookalikeDetour)).hops =
      [⟨"","channel-1"⟩,⟨"transfer","channel-1"⟩,⟨"transfer","channel-10"⟩] := by
  have onward : Onward "transfer/channel-1" lookalikeDetour := ⟨by decide,by decide,by decide⟩
  obtain ⟨_,home,hops⟩ := trip_unwound "transfer/channel-1" lookalikeDetour onward
  have native : (Trace.read "transfer/channel-1").hops = [] := by decide
  refine ⟨onward,by decide,home,?_⟩
  rw [hops,native]
  rfl

end Denomination
end TokenTransfer
