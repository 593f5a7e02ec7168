import TokenTransfer.Proofs.Traces
import TokenTransfer.Registry

namespace TokenTransfer

structure ChannelEnd.Accepted (place : ChannelEnd) : Prop where
  opened : ∀ (channels : ChannelRegistry) (peer : ChannelEnd), ∃ next,
    ChannelRegistry.openChannel channels.owner place peer channels = .ok () next ∧ next.peer? place = some peer
  derived : ∀ escrows : EscrowRegistry, ∃ next,
    EscrowRegistry.setDerived escrows.owner place escrows = .ok (Denomination.escrowAccount place) next ∧
      next.accounts.find place.channel = some (Denomination.escrowAccount place)

-- Registries leave the choice of identifiers to their owner.
theorem ChannelEnd.accepted (place : ChannelEnd) : place.Accepted := by
  refine ⟨fun channels peer => ?_,fun escrows => ?_⟩
  · refine ⟨{channels with peers := channels.peers.put place peer},?_,?_⟩
    · simp [ChannelRegistry.openChannel,Guard.authorized]
    · unfold ChannelRegistry.peer?
      rw [Table.find_put,if_pos rfl]
  · let account := Denomination.escrowAccount place
    refine ⟨{escrows with accounts := escrows.accounts.put place.channel account},?_,?_⟩
    · simp only [EscrowRegistry.setDerived,EscrowRegistry.set,Guard.authorized,if_true,Call.bind_on,Call.get_on,
        Call.check_on,Call.modify_on,Call.pure_on]
      rfl
    · rw [Table.find_put,if_pos rfl]

namespace Denomination
variable {place other : ChannelEnd} {between : List Char}

def Overlap (place other : ChannelEnd) : Prop :=
  place.hop.toList <+: other.hop.toList ∨ other.hop.toList <+: place.hop.toList

def Shifted (place other : ChannelEnd) : Prop :=
  ∃ middle, other.port = place.port ++ "/" ++ middle ∧ place.channel = middle ++ "/" ++ other.channel

def Collision (one two : Bytes) : Prop :=
  one ≠ two ∧ (Sha256.hash one).take 20 = (Sha256.hash two).take 20

theorem overlap_exact : (∃ denom rest, wrap place denom = wrap other rest) ↔ Overlap place other := by
  constructor
  · intro shared
    obtain ⟨denom,rest,same⟩ := shared
    have spelled : place.hop.toList ++ denom.toList = other.hop.toList ++ rest.toList := by
      simpa [wrap] using congrArg String.toList same
    have begins : place.hop.toList <+: other.hop.toList ++ rest.toList := ⟨denom.toList,spelled⟩
    exact List.prefix_or_prefix_of_prefix begins (List.prefix_append _ _)
  · intro overlap
    rcases overlap with ⟨tail,longer⟩ | ⟨tail,longer⟩
    · refine ⟨String.ofList tail,"",?_⟩
      rw [← String.toList_inj]
      simpa [wrap] using longer
    · refine ⟨"",String.ofList tail,?_⟩
      rw [← String.toList_inj]
      simpa [wrap] using longer.symm

theorem overlap_plain (one : place.Plain) (two : other.Plain) (overlap : Overlap place other) : place = other := by
  obtain ⟨denom,rest,same⟩ := overlap_exact.mpr overlap
  exact (Trace.carries_plain one two).mp (carries_exact.mpr ⟨denom,same.symm⟩)

theorem preimage_exact : escrowPreimage place = escrowPreimage other ↔ place.path = other.path := by
  constructor
  · intro same
    unfold escrowPreimage at same
    have written := (List.cons.inj (List.append_cancel_left same)).2
    have read := congrArg Utf8.read written
    rw [Utf8.utf8_roundtrip,Utf8.utf8_roundtrip] at read
    exact Option.some.inj read
  · intro same
    unfold escrowPreimage
    rw [same]

theorem account_exact : escrowAccount place = escrowAccount other ↔
    escrowPreimage place = escrowPreimage other ∨ Collision (escrowPreimage place) (escrowPreimage other) := by
  have cut : escrowAccount place = escrowAccount other ↔
      (Sha256.hash (escrowPreimage place)).take 20 = (Sha256.hash (escrowPreimage other)).take 20 := by
    simp [escrowAccount]
  rw [cut]
  by_cases same : escrowPreimage place = escrowPreimage other
  · simp [same]
  · simp [same,Collision]

theorem Shifted.path (shifted : Shifted place other) : place.path = other.path := by
  obtain ⟨middle,port,channel⟩ := shifted
  unfold ChannelEnd.path
  rw [port,channel]
  simp [String.append_assoc]

theorem Shifted.slashed (shifted : Shifted place other) : '/' ∈ other.port.toList := by
  obtain ⟨middle,port,_⟩ := shifted
  rw [port]
  simp

-- What the longer port has more begins with the slash that the shorter one ends at.
theorem cut_shifted (different : place ≠ other) (port : other.port.toList = place.port.toList ++ between)
    (channel : '/' :: place.channel.toList = between ++ '/' :: other.channel.toList) : Shifted place other := by
  cases between with
  | nil =>
    rw [List.append_nil,String.toList_inj] at port
    rw [List.nil_append,List.cons.injEq,String.toList_inj] at channel
    refine absurd ?_ different
    cases place
    cases other
    simp only at port channel
    rw [port,channel.2]
  | cons slash middle =>
    rw [List.cons_append,List.cons.injEq] at channel
    refine ⟨String.ofList middle,?_,?_⟩
    · rw [← String.toList_inj,port,← channel.1]
      simp
    · rw [← String.toList_inj,channel.2]
      simp

theorem path_exact (different : place ≠ other) :
    place.path = other.path ↔ Shifted place other ∨ Shifted other place := by
  constructor
  · intro same
    have spelled : place.port.toList ++ '/' :: place.channel.toList =
        other.port.toList ++ '/' :: other.channel.toList := by
      simpa [ChannelEnd.path] using congrArg String.toList same
    rcases List.append_eq_append_iff.mp spelled with ⟨between,port,channel⟩ | ⟨between,port,channel⟩
    · exact .inl (cut_shifted different port channel)
    · exact .inr (cut_shifted different.symm port channel)
  · intro shifted
    exact shifted.elim Shifted.path fun back => back.path.symm

theorem ends_apart (place other : ChannelEnd) (different : place ≠ other) :
    place.Accepted ∧ other.Accepted ∧
      ((∃ denom rest, wrap place denom = wrap other rest) ↔ Overlap place other) ∧
      (escrowPreimage place = escrowPreimage other ↔ Shifted place other ∨ Shifted other place) ∧
      (escrowAccount place = escrowAccount other ↔
        (Shifted place other ∨ Shifted other place) ∨ Collision (escrowPreimage place) (escrowPreimage other)) ∧
      (place.Plain → other.Plain →
        (∀ denom rest, wrap place denom ≠ wrap other rest) ∧ escrowPreimage place ≠ escrowPreimage other ∧
          (escrowAccount place = escrowAccount other → Collision (escrowPreimage place) (escrowPreimage other))) := by
  have texts : escrowPreimage place = escrowPreimage other ↔ Shifted place other ∨ Shifted other place :=
    preimage_exact.trans (path_exact different)
  refine ⟨place.accepted,other.accepted,overlap_exact,texts,account_exact.trans (or_congr_left texts),?_⟩
  intro one two
  have apart : escrowPreimage place ≠ escrowPreimage other := by
    intro same
    rcases texts.mp same with shifted | shifted
    · exact two.1 shifted.slashed
    · exact one.1 shifted.slashed
  refine ⟨fun denom rest same => ?_,apart,fun same => (account_exact.mp same).resolve_left apart⟩
  exact different (overlap_plain one two (overlap_exact.mp ⟨denom,rest,same⟩))

theorem ends_apart_alike :
    let place : ChannelEnd := ⟨"transfer","channel-1"⟩
    let other : ChannelEnd := ⟨"transfer","channel-10"⟩
    place ≠ other ∧ place.Plain ∧ other.Plain ∧ wrap place "0/ETH" ≠ wrap other "ETH" ∧
      escrowPreimage place ≠ escrowPreimage other ∧ escrowAccount place ≠ escrowAccount other := by
  intro place other
  have different : place ≠ other := by decide
  have one : place.Plain := by decide
  have two : other.Plain := by decide
  obtain ⟨_,_,_,_,_,apart⟩ := ends_apart place other different
  obtain ⟨names,texts,accounts⟩ := apart one two
  have hashes : (Sha256.hash (escrowPreimage place)).take 20 ≠ (Sha256.hash (escrowPreimage other)).take 20 := by
    decide +kernel
  exact ⟨different,one,two,names _ _,texts,fun same => hashes (accounts same).2⟩

theorem ends_meet :
    let place : ChannelEnd := ⟨"a/b","c"⟩
    let other : ChannelEnd := ⟨"a","b/c"⟩
    place ≠ other ∧ place.Accepted ∧ other.Accepted ∧ wrap place "ETH" = wrap other "ETH" ∧
      escrowPreimage place = escrowPreimage other ∧ escrowAccount place = escrowAccount other := by
  intro place other
  have texts : escrowPreimage place = escrowPreimage other := by decide
  exact ⟨by decide,place.accepted,other.accepted,by decide,texts,account_exact.mpr (.inl texts)⟩

end Denomination
end TokenTransfer
