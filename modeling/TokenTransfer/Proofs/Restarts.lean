import TokenTransfer.Proofs.Reconstruction
import TokenTransfer.Proofs.Refusals

namespace TokenTransfer

-- The packets that a chain has yet to hear of, whatever restarts came in between,
-- and all those that its present application could take for one another: what it
-- sent itself, and what was out when it started.
structure Dues where
  owed : List Departure
  known : List Departure

namespace Dues

def clear : Dues := ⟨[],[]⟩

def next (dues : Dues) (host : Host) (request : Request) : Dues :=
  if request.restarts then ⟨dues.owed,dues.owed⟩
  else match host.concluded request with
    | some packet => ⟨dues.owed.eraseP fun departure => departure.packet == packet,dues.known⟩
    | none => ⟨dues.owed ++ host.departed request,dues.known ++ host.departed request⟩

-- What keeps packets apart over restarts: an application starts anew as it was
-- configured, the end of a packet is taken note of once, and no packet goes out
-- under a number that the application knows already.
def admits (dues : Dues) (host : Host) (request : Request) : Bool :=
  (match request with
  | .restart config => config == host.chain.config
  | _ => true) &&
  (host.concluded request).all (fun packet => dues.owed.any fun departure => departure.packet == packet) &&
  (host.departed request).all fun departure => departure.packet.data.length < UInt32.size &&
    !dues.known.any fun other => other.number == departure.number

def after : Dues → Host → List Request → Dues
  | dues,_,[] => dues
  | dues,host,request :: rest => after (dues.next host request) (host.step request).2 rest

def admitted : Dues → Host → List Request → Bool
  | _,_,[] => true
  | dues,host,request :: rest => dues.admits host request && admitted (dues.next host request) (host.step request).2 rest

-- What ties the books of the present application to them. An owed packet may be on
-- record or not, but no other packet is on record in its place.
structure Sound (dues : Dues) (encoding : PayloadEncoding) (outbound : Outbound) : Prop where
  distinct : (dues.owed.map Departure.number).Nodup
  included : dues.owed ⊆ dues.known
  unsettled : ∀ departure ∈ dues.owed, outbound.isSettled departure.packet.source departure.packet.sequence = false
  recorded : ∀ departure ∈ dues.owed, ∀ entry, outbound.inFlight.find departure.packet.id = some entry →
    entry = departure.entry
  written : ∀ departure ∈ dues.owed,
    Payload.encode encoding (Chain.orderData departure.caller departure.order) = .ok departure.packet.data ∧
      departure.packet.data.length < UInt32.size
  positive : ∀ departure ∈ dues.owed, departure.packet.sequence ≠ 0
  settled : ∀ place sequence, outbound.isSettled place sequence = true →
    sequence = 0 ∨ ∃ departure ∈ dues.known, departure.number = (place,sequence)
  counting : ∀ place, outbound.next place ≠ 0

variable {dues : Dues} {encoding : PayloadEncoding} {outbound : Outbound} {departure other : Departure} {packet : Packet}
  {host : Host} {request : Request} {requests : List Request}

theorem clear_sound (encoding : PayloadEncoding) : Sound clear encoding .new where
  distinct := .nil
  included := List.nil_subset _
  unsettled := nofun
  recorded := nofun
  written := nofun
  positive := nofun
  settled := nofun
  counting := by
    intro place
    exact (by decide : (1 : UInt64) ≠ 0)

theorem Sound.renews (sound : Sound dues encoding outbound) : Sound ⟨dues.owed,dues.owed⟩ encoding .new where
  distinct := sound.distinct
  included := List.Subset.refl _
  unsettled := fun _ _ => rfl
  recorded := nofun
  written := sound.written
  positive := sound.positive
  settled := nofun
  counting := (clear_sound encoding).counting

theorem number_id (same : other.packet.id = departure.packet.id) : other.number = departure.number := by
  have source : other.packet.source = departure.packet.source := congrArg PacketId.source same
  have sequence : other.packet.sequence = departure.packet.sequence := congrArg PacketId.sequence same
  unfold Departure.number
  rw [source,sequence]

theorem Sound.sends (sound : Sound dues encoding outbound)
    (sequence : departure.packet.sequence = outbound.next departure.packet.source)
    (written : Payload.encode encoding (Chain.orderData departure.caller departure.order) = .ok departure.packet.data)
    (short : departure.packet.data.length < UInt32.size)
    (fresh : ∀ other ∈ dues.known, other.number ≠ departure.number) :
    Sound ⟨dues.owed ++ [departure],dues.known ++ [departure]⟩ encoding
      (outbound.send departure.packet departure.entry) := by
  have positive : departure.packet.sequence ≠ 0 := by
    rw [sequence]
    exact sound.counting _
  -- Nothing is settled but zero and the numbers of known packets.
  have unsettled : outbound.isSettled departure.packet.source departure.packet.sequence = false := by
    cases already : outbound.isSettled departure.packet.source departure.packet.sequence with
    | false => rfl
    | true =>
      rcases sound.settled _ _ already with nothing | ⟨other,present,same⟩
      · exact absurd nothing positive
      · exact absurd same (fresh other present)
  have both : ∀ {other}, other ∈ dues.owed ++ [departure] → other ∈ dues.owed ∨ other = departure := by
    intro other present
    rcases List.mem_append.mp present with before | new
    · exact .inl before
    · exact .inr (List.mem_singleton.mp new)
  refine ⟨?_,?_,?_,?_,?_,?_,?_,?_⟩
  · rw [List.map_append,List.map_singleton]
    refine List.Nodup.append sound.distinct (List.nodup_singleton _) ?_
    intro number before new
    rw [List.mem_singleton] at new
    obtain ⟨other,present,same⟩ := List.mem_map.mp before
    exact fresh other (sound.included present) (same.trans new)
  · intro other present
    rcases both present with before | rfl
    · exact List.mem_append_left _ (sound.included before)
    · exact List.mem_append_right _ List.mem_cons_self
  · intro other present
    rcases both present with before | rfl
    · exact sound.unsettled other before
    · exact unsettled
  · intro other present entry found
    rw [Outbound.send_find] at found
    rcases both present with before | rfl
    · by_cases same : other.packet.id = departure.packet.id
      · exact absurd (number_id same) (fresh other (sound.included before))
      · rw [if_neg same] at found
        exact sound.recorded other before entry found
    · rw [if_pos rfl] at found
      exact (Option.some.inj found).symm
  · intro other present
    rcases both present with before | rfl
    · exact sound.written other before
    · exact ⟨written,short⟩
  · intro other present
    rcases both present with before | rfl
    · exact sound.positive other before
    · exact positive
  · intro place number already
    rcases sound.settled place number already with nothing | ⟨other,present,same⟩
    · exact .inl nothing
    · exact .inr ⟨other,List.mem_append_left _ present,same⟩
  · intro place
    rw [Outbound.send_next]
    split
    · exact Sequence.next_positive _
    · exact sound.counting place

theorem Sound.settles (sound : Sound dues encoding outbound) (present : departure ∈ dues.owed)
    (same : departure.packet = packet) :
    Sound ⟨dues.owed.eraseP fun departure => departure.packet == packet,dues.known⟩ encoding (outbound.settle packet) := by
  obtain ⟨taken,front,back,_,here,split,left⟩ :=
    List.exists_of_eraseP (p := fun departure => departure.packet == packet) present (beq_iff_eq.mpr same)
  have stays : ∀ {other}, other ∈ dues.owed.eraseP (fun departure => departure.packet == packet) → other ∈ dues.owed :=
    List.mem_of_mem_eraseP
  have apart : ∀ {other}, other ∈ dues.owed.eraseP (fun departure => departure.packet == packet) →
      other.number ≠ (packet.source,packet.sequence) := by
    intro other stayed again
    have distinct := sound.distinct
    rw [split,List.map_append,List.map_cons,List.nodup_middle,List.nodup_cons,← List.map_append] at distinct
    rw [left] at stayed
    have taken' : taken.number = (packet.source,packet.sequence) := by
      unfold Departure.number
      rw [beq_iff_eq.mp here]
    exact distinct.1 (taken'.trans again.symm ▸ List.mem_map_of_mem stayed)
  refine ⟨?_,?_,?_,?_,?_,?_,?_,sound.counting⟩
  · exact sound.distinct.sublist (List.eraseP_sublist.map _)
  · exact fun other stayed => sound.included (stays stayed)
  · intro other stayed
    rw [Bool.eq_false_iff]
    intro now
    rcases Outbound.settle_only now with before | ⟨source,sequence⟩ | nothing
    · rw [sound.unsettled other (stays stayed)] at before
      cases before
    · exact apart stayed (Prod.ext source sequence)
    · exact sound.positive other (stays stayed) nothing
  · intro other stayed entry found
    exact sound.recorded other (stays stayed) entry (Outbound.settle_finds.mp found).2
  · exact fun other stayed => sound.written other (stays stayed)
  · exact fun other stayed => sound.positive other (stays stayed)
  · intro place number now
    rcases Outbound.settle_only now with before | ⟨rfl,rfl⟩ | nothing
    · exact sound.settled place number before
    · refine .inr ⟨departure,sound.included present,?_⟩
      unfold Departure.number
      rw [same]
    · exact .inl nothing

theorem step_sound (sound : Sound dues host.chain.config.encoding host.chain.outbound)
    (admits : dues.admits host request = true) :
    Sound (dues.next host request) (host.step request).2.chain.config.encoding (host.step request).2.chain.outbound := by
  unfold Dues.admits at admits
  simp only [Bool.and_eq_true] at admits
  obtain ⟨⟨steady,honest⟩,apart⟩ := admits
  cases running : request.restarts with
  | true =>
    cases request with
    | restart config =>
      obtain rfl : config = host.chain.config := beq_iff_eq.mp steady
      exact sound.renews
    | _ => cases running
  | false =>
    have config : (host.step request).2.chain.config = host.chain.config := congrArg Prod.fst (Host.step_standing running)
    unfold Dues.next
    rw [running,config]
    cases host.step_shifts request with
    | still same unsent unreported =>
      simp only [unsent,unreported,same,List.append_nil]
      exact sound
    | sends departure departed unreported leaves =>
      simp only [departed,List.all_cons,List.all_nil,Bool.and_true,Bool.and_eq_true,decide_eq_true_eq,
        Bool.not_eq_true',List.any_eq_false,beq_iff_eq] at apart
      simp only [departed,unreported,leaves.booked]
      exact sound.sends leaves.sequence leaves.written apart.1 apart.2
    | settles packet unsent concluded transport unsettled same =>
      simp only [concluded,Option.all_some,List.any_eq_true,beq_iff_eq] at honest
      obtain ⟨departure,present,here⟩ := honest
      simp only [concluded,same]
      exact sound.settles present here
    | renews config asked =>
      subst asked
      cases running

theorem run_sound (sound : Sound dues host.chain.config.encoding host.chain.outbound)
    (admitted : dues.admitted host requests = true) :
    Sound (dues.after host requests) (host.run requests).2.chain.config.encoding (host.run requests).2.chain.outbound := by
  induction requests generalizing host dues with
  | nil => exact sound
  | cons request rest ih =>
    unfold Dues.admitted at admitted
    rw [Bool.and_eq_true] at admitted
    exact ih (step_sound sound admitted.1) admitted.2

theorem Sound.charged {chain : Chain} {entry : InFlight} (sound : Sound dues chain.config.encoding chain.outbound)
    (present : departure ∈ dues.owed) (charged : chain.charged departure.packet = .ok entry) :
    entry.sender = departure.caller ∧ entry.denom = departure.order.denom ∧ entry.amount = departure.order.amount := by
  unfold Chain.charged at charged
  cases found : chain.outbound.inFlight.find departure.packet.id with
  | some record =>
    rw [found] at charged
    cases charged
    rw [sound.recorded departure present entry found]
    exact ⟨rfl,rfl,rfl⟩
  | none =>
    rw [found] at charged
    obtain ⟨written,short⟩ := sound.written departure present
    obtain ⟨sender,denom,amount,_⟩ := Chain.reconstruct_faithful written short charged
    exact ⟨sender,denom,amount⟩

end Dues

namespace Host

theorem restarts_safe (host : Host) (requests : List Request) (new : host.chain.outbound = .new)
    (admitted : Dues.clear.admitted host requests = true) (departure : Departure)
    (owed : departure ∈ (Dues.clear.after host requests).owed) (request : Request)
    (reported : request.packet? = some departure.packet) :
    let reached := (host.run requests).2
    (∀ place sequence, (reached.step request).1 ≠ .error (.alreadySettled place sequence)) ∧
      ∀ event, (reached.step request).1 = .ok (.moved event) →
        event.target = departure.caller ∧ event.denom = departure.order.denom ∧
          event.amount = departure.order.amount ∧
          ∀ data, Payload.decode reached.chain.config.encoding departure.packet.data = .ok data →
            Address.read? data.sender = some event.target ∧ data.denom = event.denom ∧ data.amount = event.amount := by
  intro reached
  have sound : Dues.Sound (Dues.clear.after host requests) reached.chain.config.encoding reached.chain.outbound :=
    Dues.run_sound (new ▸ Dues.clear_sound _) admitted
  refine ⟨step_unsettled reported (sound.unsettled departure owed),?_⟩
  intro event answered
  obtain ⟨debit,refunded⟩ := report_refunded reported (Prod.ext answered rfl)
  obtain ⟨_,entry,_,charged,paid,_⟩ := Chain.refund_exact.mp refunded
  obtain ⟨rfl,_⟩ := Chain.repayment_paid paid
  obtain ⟨sender,denom,amount⟩ := sound.charged owed charged
  refine ⟨sender,denom,amount,?_⟩
  intro data decoded
  obtain ⟨written,short⟩ := sound.written departure owed
  obtain ⟨sameDenom,sameAmount,sameSender,_⟩ := Payload.decode_faithful written short decoded
  rw [sameSender,sameDenom,sameAmount]
  exact ⟨(Address.text_roundtrip departure.caller).trans (congrArg some sender.symm),denom.symm,amount.symm⟩

def restartDetour : List Request :=
  opening ++ [delivery 4,.restart (Config.new relay),.setEscrow relay "channel-5" guest,
    .openChannel relay ⟨"transfer","channel-5"⟩ reported.destination,.mint relay relay "stone" (stones 3),
    .send relay ⟨⟨"transfer","channel-5"⟩,"stone",stones 3,guest.text,"",.zero,0⟩]

theorem restarts_safe_detour :
    relayed.chain.outbound = .new ∧ Dues.clear.admitted relayed restartDetour = true ∧
      ∃ departure ∈ (Dues.clear.after relayed restartDetour).owed, departure.caller = guest ∧
        let answer := ((relayed.run restartDetour).2.step (.timeout relay departure.packet)).1
        answer ≠ .error (.alreadySettled reported.source 1) ∧
          ∃ event, answer = .ok (.moved event) ∧ event.target = guest ∧ event.amount = departure.order.amount := by
  have facts : Dues.clear.admitted relayed restartDetour = true ∧
      ∃ departure ∈ (Dues.clear.after relayed restartDetour).owed, departure.caller = guest ∧
        ((relayed.run restartDetour).2.step (.timeout relay departure.packet)).1 =
          .ok (.moved ⟨departure.debit.payee,guest,"stone",stones 4⟩) := by decide +kernel
  obtain ⟨admitted,departure,owed,sender,answered⟩ := facts
  have safe := restarts_safe relayed restartDetour rfl admitted departure owed (.timeout relay departure.packet) rfl
  obtain ⟨target,_,amount,_⟩ := safe.2 _ answered
  exact ⟨rfl,admitted,departure,owed,sender,safe.1 _ _,_,answered,target.trans sender,amount⟩

-- Numbers start over with each application, so that without this care a packet is
-- taken for a later one: its refund goes to the sender of that one, and the report on
-- that one is refused.
def numberReuse : List Request :=
  opening ++ [.mint relay relay "stone" (stones 3),delivery 4,.restart (Config.new relay),
    .send relay ⟨reported.source,"stone",stones 3,guest.text,"",.zero,0⟩]

theorem restarts_confuse :
    ∃ first ∈ relayed.departures numberReuse, ∃ second ∈ relayed.departures numberReuse,
      first.caller = guest ∧ first.order.amount = stones 4 ∧ second.caller = relay ∧ second.order.amount = stones 3 ∧
        let reached := (relayed.run numberReuse).2
        let repaid := reached.step (.timeout relay first.packet)
        repaid.1 = .ok (.moved ⟨second.debit.payee,relay,"stone",stones 3⟩) ∧
          (repaid.2.step (.timeout relay second.packet)).1 = .error (.alreadySettled reported.source 1) := by
  decide +kernel

end Host
end TokenTransfer
