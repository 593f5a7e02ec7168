import TokenTransfer.Proofs.Debits

namespace TokenTransfer

namespace Ledger
variable {ledger next : Ledger} {caller source target : Address} {denom : String} {amount : Amount} {event : TransferEvent}

theorem transfer_apart (moved : transfer caller source target denom amount ledger = .ok event next)
    (something : amount.units ≠ 0) : source ≠ target ↔
      next.held target denom = ledger.held target denom + amount.units ∧
        next.held source denom + amount.units = ledger.held source denom := by
  have paid := transfer_held moved source denom
  rw [if_pos ⟨rfl,rfl⟩] at paid
  by_cases same : source = target
  · subst same
    rw [if_pos ⟨rfl,rfl⟩] at paid
    refine ⟨fun apart => absurd rfl apart,fun parts => ?_⟩
    omega
  · have credited := transfer_held moved target denom
    rw [if_neg fun both => same both.1.symm,if_pos ⟨rfl,rfl⟩] at credited
    rw [if_neg fun both => same both.1] at paid
    exact ⟨fun _ => ⟨credited,paid⟩,fun _ => same⟩

end Ledger

namespace Chain
variable {chain next : Chain} {caller escrow : Address} {order : TransferOrder} {sent : SentPacket}

theorem send_locks (moved : send caller order chain = .ok sent next)
    (cost : chain.debitFor order.source order.denom = some (.escrowed escrow)) :
    order.amount.units ≠ 0 ∧ chain.escrowOf order.source.channel = some escrow ∧
      Ledger.transfer chain.identity caller escrow order.denom order.amount chain.ledger = .ok sent.event next.ledger := by
  obtain ⟨peer,bytes,debit,ledger,dispatched,charged,_,rfl⟩ := send_exact.mp moved
  obtain ⟨_,_,_,something,same,_⟩ := dispatch_exact.mp dispatched
  cases cost.symm.trans same
  refine ⟨something,?_,charged⟩
  rcases debitFor_exact.mp cost with ⟨_,account,known,here⟩ | ⟨_,burned⟩
  · cases here
    exact known
  · cases burned

end Chain

namespace Host

theorem send_backed (host : Host) (caller : Address) (order : TransferOrder) (sent : SentPacket) (entry : InFlight)
    (escrow : Address) (answered : (host.step (.send caller order)).1 = .ok (.sent sent))
    (recorded : (host.step (.send caller order)).2.chain.outbound.inFlight.find sent.packet.id = some entry)
    (escrowed : entry.debit = .escrowed escrow) :
    let before := host.chain.ledger
    let after := (host.step (.send caller order)).2.chain.ledger
    entry = ⟨caller,order.denom,order.amount,.escrowed escrow⟩ ∧
      host.chain.escrowOf order.source.channel = some escrow ∧ order.amount.units ≠ 0 ∧
      (∀ account denom, after.held account denom +
        (if account = caller ∧ denom = order.denom then order.amount.units else 0) =
          before.held account denom + if account = escrow ∧ denom = order.denom then order.amount.units else 0) ∧
      (caller ≠ escrow ↔ after.held escrow order.denom = before.held escrow order.denom + order.amount.units ∧
        after.held caller order.denom + order.amount.units = before.held caller order.denom) := by
  intro before after
  have leaves := sent_leaves answered
  obtain ⟨_,told,moved⟩ := step_send (Prod.ext answered rfl)
  cases told
  have booked : entry = Departure.entry ⟨caller,order,sent⟩ := Option.some.inj (recorded.symm.trans leaves.recorded)
  have charged : Departure.debit ⟨caller,order,sent⟩ = .escrowed escrow := by
    rw [booked] at escrowed
    exact escrowed
  obtain ⟨something,known,locked⟩ := Chain.send_locks moved (charged ▸ leaves.cost)
  refine ⟨?_,known,something,Ledger.transfer_held locked,Ledger.transfer_apart locked something⟩
  rw [booked]
  unfold Departure.entry
  rw [charged]

theorem send_backed_delivery :
    ∃ sent entry, (loaded.step (delivery 4)).1 = .ok (.sent sent) ∧
      keeper.chain.outbound.inFlight.find sent.packet.id = some entry ∧ entry.debit = .escrowed vault ∧ guest ≠ vault ∧
      keeper.chain.ledger.held vault "stone" = loaded.chain.ledger.held vault "stone" + 4 ∧
      keeper.chain.ledger.held guest "stone" + 4 = loaded.chain.ledger.held guest "stone" := by
  have facts : ∃ departure ∈ loaded.departed (delivery 4), (loaded.step (delivery 4)).1 = .ok (.sent departure.sent) ∧
      keeper.chain.outbound.inFlight.find departure.packet.id = some departure.entry ∧
      departure.entry.debit = .escrowed vault ∧ guest ≠ vault := by decide +kernel
  obtain ⟨departure,_,answered,recorded,escrowed,apart⟩ := facts
  have backed := send_backed loaded guest _ departure.sent departure.entry vault answered recorded escrowed
  have newly := backed.2.2.2.2.mp apart
  exact ⟨departure.sent,departure.entry,answered,recorded,escrowed,apart,newly⟩

-- The escrow sends the four stones that it holds for the guest over its own channel, and
-- holds them still: two packets are under way for them.
theorem send_unbacked :
    let loop : TransferOrder := ⟨reported.source,"stone",stones 4,relay.text,"",.zero,0⟩
    let before := keeper.chain.ledger
    let after := (keeper.step (.send vault loop)).2.chain
    ∃ departure ∈ keeper.departed (.send vault loop), (keeper.step (.send vault loop)).1 = .ok (.sent departure.sent) ∧
      after.outbound.inFlight.find departure.packet.id = some departure.entry ∧ departure.entry.debit = .escrowed vault ∧
      ¬(after.ledger.held vault "stone" = before.held vault "stone" + loop.amount.units ∧
        after.ledger.held vault "stone" + loop.amount.units = before.held vault "stone") ∧
      after.ledger.held vault "stone" = 4 ∧ after.outbound.pending = 2 := by
  decide +kernel

end Host
end TokenTransfer
