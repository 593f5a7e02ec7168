import TokenTransfer.Proofs.SettledOnce

namespace TokenTransfer

def Debit.payee : Debit → Address
  | .escrowed escrow => escrow
  | .burned => .zero

structure Departure where
  caller : Address
  order : TransferOrder
  sent : SentPacket
deriving DecidableEq

namespace Departure
variable {chain next : Chain} {caller : Address} {order : TransferOrder} {sent : SentPacket}

def packet (departure : Departure) : Packet := departure.sent.packet

-- What a packet settles under: the end that it left by and its sequence there.
def number (departure : Departure) : ChannelEnd × UInt64 := (departure.packet.source,departure.packet.sequence)

def debit (departure : Departure) : Debit :=
  if Denomination.leavesHome departure.order.source departure.order.denom then .escrowed departure.sent.event.target
  else .burned

def entry (departure : Departure) : InFlight :=
  ⟨departure.caller,departure.order.denom,departure.order.amount,departure.debit⟩

structure Leaves (departure : Departure) (chain next : Chain) : Prop where
  source : departure.packet.source = departure.order.source
  sequence : departure.packet.sequence = chain.outbound.next departure.packet.source
  written : Payload.encode chain.config.encoding (Chain.orderData departure.caller departure.order) =
    .ok departure.packet.data
  cost : chain.debitFor departure.order.source departure.order.denom = some departure.debit
  told : departure.sent.event =
    ⟨departure.caller,departure.debit.payee,departure.order.denom,departure.order.amount⟩
  booked : next.outbound = chain.outbound.send departure.packet departure.entry

theorem send_leaves (moved : Chain.send caller order chain = .ok sent next) :
    Leaves ⟨caller,order,sent⟩ chain next := by
  obtain ⟨peer,bytes,debit,ledger,dispatched,charged,packed,rfl⟩ := Chain.send_exact.mp moved
  obtain ⟨_,_,_,_,cost,encoded⟩ := Chain.dispatch_exact.mp dispatched
  have told : sent.event = ⟨caller,debit.payee,order.denom,order.amount⟩ := by
    cases debit with
    | escrowed escrow =>
      obtain ⟨_,_,_,event,_⟩ := Ledger.transfer_exact.mp charged
      exact event
    | burned =>
      obtain ⟨_,_,_,event,_⟩ := Ledger.burn_exact.mp charged
      exact event
  have same : debit = Departure.debit ⟨caller,order,sent⟩ := by
    unfold Departure.debit
    rcases Chain.debitFor_exact.mp cost with ⟨leaves,escrow,_,rfl⟩ | ⟨stays,rfl⟩
    · rw [if_pos leaves,told]
      rfl
    · exact (if_neg (by simp [stays])).symm
  have packet : sent.packet.source = order.source := by
    rw [packed]
    rfl
  refine ⟨packet,?_,?_,same ▸ cost,same ▸ told,?_⟩
  · show sent.packet.sequence = chain.outbound.next sent.packet.source
    rw [packed]
    rfl
  · show Payload.encode _ _ = .ok sent.packet.data
    rw [packed]
    exact encoded
  · unfold Departure.entry
    rw [← same]
    rfl

end Departure

namespace Host
variable {host next : Host} {request : Request} {packet : Packet} {reply : Reply}

def departed (host : Host) (request : Request) : List Departure :=
  match request,(host.step request).1 with
  | .send caller order,.ok (.sent sent) => [⟨caller,order,sent⟩]
  | _,_ => []

def concluded (host : Host) (request : Request) : Option Packet :=
  if (host.step request).1.isOk then request.packet? else none

def departures : Host → List Request → List Departure
  | _,[] => []
  | host,request :: rest => host.departed request ++ departures (host.step request).2 rest

def conclusions : Host → List Request → List Packet
  | _,[] => []
  | host,request :: rest => (host.concluded request).toList ++ conclusions (host.step request).2 rest

theorem concluded_exact : host.concluded request = some packet ↔
    request.packet? = some packet ∧ (host.step request).1.isOk = true := by
  unfold concluded
  split
  · rename_i accepted
    simp [accepted]
  · rename_i refused
    simp [refused]

theorem departed_send {caller : Address} {order : TransferOrder} {sent : SentPacket}
    (answered : (host.step (.send caller order)).1 = .ok (.sent sent)) :
    host.departed (.send caller order) = [⟨caller,order,sent⟩] := by
  unfold departed
  rw [answered]

theorem departed_silent (unsent : ∀ caller order, request ≠ .send caller order) : host.departed request = [] := by
  unfold departed
  split
  · exact absurd rfl (unsent _ _)
  · rfl

theorem perform_transport (reported : request.packet? = some packet) (answered : request.perform host = .ok reply next) :
    request.caller? = some host.chain.config.transport := by
  cases request with
  | acknowledge caller known bytes =>
    simp only [Request.perform,map_eq_pure_bind] at answered
    obtain ⟨answer,middle,ran,_⟩ := Call.bind_ok.mp answered
    exact congrArg some (acknowledge_ok ran).1
  | timeout caller known =>
    simp only [Request.perform,map_eq_pure_bind] at answered
    obtain ⟨event,middle,ran,_⟩ := Call.bind_ok.mp answered
    exact congrArg some (timeout_ok ran).1
  | _ => cases reported

inductive Shift (host : Host) (request : Request) (next : Host) : Prop
  | still (same : next.chain.outbound = host.chain.outbound) (unsent : host.departed request = [])
      (unreported : host.concluded request = none)
  | sends (departure : Departure) (sent : host.departed request = [departure])
      (unreported : host.concluded request = none) (leaves : departure.Leaves host.chain next.chain)
  | settles (packet : Packet) (unsent : host.departed request = []) (concluded : host.concluded request = some packet)
      (transport : request.caller? = some host.chain.config.transport)
      (unsettled : host.chain.outbound.isSettled packet.source packet.sequence = false)
      (same : next.chain.outbound = host.chain.outbound.settle packet)
  | renews (config : Config) (asked : request = .restart config) (same : next.chain = host.chain.restart config)

theorem step_shifts (host : Host) (request : Request) : Shift host request (host.step request).2 := by
  cases stepped : host.step request with
  | mk answer next =>
    cases answer with
    | error error =>
      refine .still (congrArg Chain.outbound (step_error stepped)) ?_ ?_
      · unfold departed
        rw [stepped]
        split
        · rename_i granted
          cases granted
        · rfl
      · unfold concluded
        rw [stepped]
        rfl
    | ok reply =>
      have ran := step_ok.mp stepped
      have accepted : (host.step request).1.isOk = true := by
        rw [stepped]
        rfl
      cases reported : request.packet? with
      | some packet =>
        have running : request.restarts = false := reports_run reported
        have unsent : ∀ caller order, request ≠ .send caller order := by
          intro caller order same
          subst same
          cases reported
        have booked := Request.perform_outbound running ran
        rw [reported] at booked
        exact .settles packet (departed_silent unsent) (concluded_exact.mpr ⟨reported,accepted⟩)
          (perform_transport reported ran) booked.1 booked.2
      | none =>
        have unreported : host.concluded request = none := by
          unfold concluded
          rw [reported]
          split <;> rfl
        cases request with
        | restart config =>
          refine .renews config rfl ?_
          cases ran
          rfl
        | send caller order =>
          obtain ⟨sent,rfl,moved⟩ := step_send stepped
          refine .sends ⟨caller,order,sent⟩ ?_ unreported (Departure.send_leaves moved)
          unfold departed
          rw [stepped]
        | acknowledge => cases reported
        | timeout => cases reported
        | _ =>
          refine .still (Request.steady_outbound rfl reported (fun _ _ same => by cases same) ran) ?_ unreported
          exact departed_silent fun _ _ same => by cases same

theorem departed_leaves {departure : Departure} (present : departure ∈ host.departed request) :
    departure.Leaves host.chain (host.step request).2.chain := by
  cases host.step_shifts request with
  | sends other departed unreported leaves =>
    rw [departed,List.mem_singleton] at present
    exact present ▸ leaves
  | still _ unsent => exact absurd (unsent ▸ present) List.not_mem_nil
  | settles _ unsent => exact absurd (unsent ▸ present) List.not_mem_nil
  | renews config asked =>
    subst asked
    cases present

theorem step_reported (reported : request.packet? = some packet)
    (accepted : (host.step request).1.isOk = true) :
    (host.step request).2.chain.outbound = host.chain.outbound.settle packet := by
  have known : host.concluded request = some packet := concluded_exact.mpr ⟨reported,accepted⟩
  cases host.step_shifts request with
  | still same unsent unreported => cases unreported.symm.trans known
  | sends departure departed unreported => cases unreported.symm.trans known
  | settles other unsent concluded transport unsettled same =>
    cases concluded.symm.trans known
    exact same
  | renews config asked =>
    subst asked
    cases reported

theorem sent_leaves {caller : Address} {order : TransferOrder} {sent : SentPacket}
    (answered : (host.step (.send caller order)).1 = .ok (.sent sent)) :
    Departure.Leaves ⟨caller,order,sent⟩ host.chain (host.step (.send caller order)).2.chain :=
  departed_leaves (departed_send answered ▸ List.mem_singleton_self _)

theorem departures_leave {requests : List Request} {departure : Departure} (present : departure ∈ host.departures requests) :
    ∃ before after, departure.Leaves before after := by
  induction requests generalizing host with
  | nil => cases present
  | cons request rest ih =>
    rw [departures,List.mem_append] at present
    rcases present with now | later
    · exact ⟨_,_,departed_leaves now⟩
    · exact ih later

-- What each send and each report preserves, of the books and of the packets that were
-- sent, holds behind every run of one application.
structure Lasting (kept : List Departure → Outbound → Prop) : Prop where
  sends : ∀ {sent : List Departure} {outbound : Outbound} {departure : Departure},
    departure.packet.sequence = outbound.next departure.packet.source → kept sent outbound →
      kept (sent ++ [departure]) (outbound.send departure.packet departure.entry)
  settles : ∀ {sent : List Departure} {outbound : Outbound} (packet : Packet), kept sent outbound →
    kept sent (outbound.settle packet)

theorem Lasting.step {kept : List Departure → Outbound → Prop} {sent : List Departure} (lasting : Lasting kept)
    (before : kept sent host.chain.outbound) (running : request.restarts = false) :
    kept (sent ++ host.departed request) (host.step request).2.chain.outbound := by
  cases host.step_shifts request with
  | still same unsent unreported =>
    rw [same,unsent,List.append_nil]
    exact before
  | sends departure departed unreported leaves =>
    rw [leaves.booked,departed]
    exact lasting.sends leaves.sequence before
  | settles packet unsent concluded transport unsettled same =>
    rw [same,unsent,List.append_nil]
    exact lasting.settles packet before
  | renews config asked =>
    subst asked
    cases running

theorem Lasting.run {kept : List Departure → Outbound → Prop} {requests : List Request} (lasting : Lasting kept)
    (sent : List Departure) (before : kept sent host.chain.outbound)
    (running : ∀ request ∈ requests, request.restarts = false) :
    kept (sent ++ host.departures requests) (host.run requests).2.chain.outbound := by
  induction requests generalizing host sent with
  | nil =>
    rw [departures,List.append_nil]
    exact before
  | cons request rest ih =>
    rw [departures,run_cons,← List.append_assoc]
    exact ih _ (lasting.step before (running request List.mem_cons_self)) fun other present =>
      running other (List.mem_cons_of_mem _ present)

-- Whether a request is no false report: the transport reports on packets that were
-- sent before. What others report is refused, so that they may report what they like.
def vouched (sent : List Departure) (host : Host) (request : Request) : Bool :=
  match request.packet? with
  | some packet => request.caller? != some host.chain.config.transport ||
      sent.any fun departure => departure.packet.id == packet.id
  | none => true

def faithful : List Departure → Host → List Request → Bool
  | _,_,[] => true
  | sent,host,request :: rest =>
    vouched sent host request && faithful (sent ++ host.departed request) (host.step request).2 rest

theorem vouched_known {sent : List Departure} (vouched : vouched sent host request = true)
    (transport : request.caller? = some host.chain.config.transport) (reported : request.packet? = some packet) :
    ∃ departure ∈ sent, departure.packet.id = packet.id := by
  unfold Host.vouched at vouched
  rw [reported,transport] at vouched
  simpa using vouched

end Host
end TokenTransfer
