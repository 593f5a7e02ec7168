import TokenTransfer.Proofs.Reconstruction

namespace TokenTransfer

namespace Chain
variable {chain next : Chain} {packet : Packet} {entry : InFlight} {credit : Credit} {debit : Debit} {event : TransferEvent}
  {caller account : Address} {denom other : String} {amount : Amount}

theorem pay_takes (paid : pay credit chain = .ok event next)
    (less : next.ledger.held account other < chain.ledger.held account other) :
    ∃ channel target amount, credit = .release channel (some account) target other amount := by
  cases credit with
  | mint target denom amount =>
    obtain ⟨ledger,minted,rfl⟩ := pay_mint.mp paid
    have held := Ledger.mint_held minted account other
    dsimp only at less
    omega
  | release channel escrow target denom amount =>
    obtain ⟨source,ledger,rfl,_,moved,rfl⟩ := pay_release.mp paid
    have held := Ledger.transfer_held moved account other
    dsimp only at less
    by_cases here : account = source ∧ other = denom
    · obtain ⟨rfl,rfl⟩ := here
      exact ⟨channel,target,amount,rfl⟩
    · rw [if_neg here] at held
      omega

theorem charge_takes {ledger after : Ledger} {identity : Address}
    (charged : chargeOn ledger identity caller denom amount debit = .ok event after)
    (less : after.held account other < ledger.held account other) : account = caller ∧ other = denom := by
  have taken : after.held account other + (if account = caller ∧ other = denom then amount.units else 0) ≥
      ledger.held account other := by
    cases debit with
    | escrowed escrow =>
      have held := Ledger.transfer_held charged account other
      omega
    | burned =>
      have held := Ledger.burn_held charged account other
      omega
  by_cases here : account = caller ∧ other = denom
  · exact here
  · rw [if_neg here] at taken
    omega

theorem repayment_release {channel : String} {target : Address}
    (released : repayment packet entry = .release channel (some account) target denom amount) :
    entry.debit = .escrowed account := by
  unfold repayment at released
  split at released
  · rename_i escrow same
    cases released
    exact same
  · cases released

-- The escrow that a refund is paid from: the one that took the tokens, or the one that
-- the channel has now when nothing is on record.
theorem charged_escrow (charged : chain.charged packet = .ok entry) (escrowed : entry.debit = .escrowed account) :
    chain.outbound.inFlight.find packet.id = some entry ∨
      chain.outbound.inFlight.find packet.id = none ∧ chain.escrowOf packet.source.channel = some account := by
  unfold Chain.charged at charged
  cases found : chain.outbound.inFlight.find packet.id with
  | some record =>
    rw [found] at charged
    cases charged
    exact .inl rfl
  | none =>
    rw [found] at charged
    obtain ⟨data,sender,debit,_,_,_,cost,rfl⟩ := reconstruct_exact.mp charged
    cases escrowed
    rcases debitFor_exact.mp cost with ⟨_,escrow,known,same⟩ | ⟨_,burned⟩
    · cases same
      exact .inr ⟨rfl,known⟩
    · cases burned

end Chain

namespace Request

def direct : Request → Bool
  | .mint .. | .burn .. | .transfer .. => true
  | _ => false

def channel? : Request → Option String
  | .receive _ packet => some packet.destination.channel
  | .acknowledge _ packet _ | .timeout _ packet => some packet.source.channel
  | _ => none

theorem refunds_channel {request : Request} {packet : Packet} (asked : request.refunds? = some packet) :
    request.channel? = some packet.source.channel := by
  cases request with
  | timeout caller known =>
    cases asked
    rfl
  | acknowledge caller known bytes =>
    cases success : (Acknowledgement.read bytes).isSuccess with
    | true => simp [refunds?,success] at asked
    | false =>
      rw [refunds?,if_neg (by simp [success])] at asked
      cases asked
      rfl
  | _ => cases asked

end Request

namespace Host
variable {host next : Host} {request : Request} {account : Address} {denom : String} {packet : Packet}
  {event : TransferEvent} {debit : Debit}

-- On whose authority a request takes tokens from an account.
inductive Debits (host : Host) (request : Request) (account : Address) (denom : String) : Prop
  | sends (order : TransferOrder) (asked : request = .send account order) (named : order.denom = denom)
  | releases (caller : Address) (packet : Packet) (asked : request = .receive caller packet)
      (escrow : host.chain.escrowOf packet.destination.channel = some account)
  | repays (packet : Packet) (asked : request.refunds? = some packet) (entry : InFlight)
      (recorded : host.chain.outbound.inFlight.find packet.id = some entry) (escrow : entry.debit = .escrowed account)
  | recovers (packet : Packet) (asked : request.refunds? = some packet)
      (lost : host.chain.outbound.inFlight.find packet.id = none)
      (escrow : host.chain.escrowOf packet.source.channel = some account)

theorem refund_debits (asked : request.refunds? = some packet)
    (refunded : Chain.refund packet host.chain = .ok (event,debit) next.chain)
    (less : next.chain.ledger.held account denom < host.chain.ledger.held account denom) :
    Debits host request account denom := by
  obtain ⟨_,entry,middle,charged,paid,_,settled⟩ := Chain.refund_exact.mp refunded
  rw [settled] at less
  obtain ⟨_,_,_,released⟩ := Chain.pay_takes paid less
  have escrowed := Chain.repayment_release released
  rcases Chain.charged_escrow charged escrowed with recorded | ⟨lost,known⟩
  · exact .repays packet asked entry recorded escrowed
  · exact .recovers packet asked lost known

theorem administered_held {reply : Reply} (administers : request.administers = true)
    (answered : host.step request = (.ok reply,next)) :
    next.chain.ledger.held account denom = host.chain.ledger.held account denom := by
  have kept := congrArg (fun chain => chain.ledger.held account denom)
    ((Request.administered_dealings administers).ok (step_ok.mp answered))
  exact kept

theorem step_debits (through : request.direct = false)
    (less : (host.step request).2.chain.ledger.held account denom < host.chain.ledger.held account denom) :
    (host.step request).1.isOk = true ∧ Debits host request account denom := by
  cases stepped : host.step request with
  | mk answer next =>
    rw [stepped] at less
    cases answer with
    | error error =>
      rw [show next.chain = host.chain from step_error stepped] at less
      exact absurd less (Nat.lt_irrefl _)
    | ok reply =>
      refine ⟨rfl,?_⟩
      cases request with
      | mint | burn | transfer => cases through
      | send caller order =>
        obtain ⟨sent,_,moved⟩ := step_send stepped
        obtain ⟨_,_,_,ledger,_,charged,_,booked⟩ := Chain.send_exact.mp moved
        rw [booked] at less
        obtain ⟨rfl,rfl⟩ := Chain.charge_takes charged less
        exact .sends order rfl rfl
      | receive caller packet =>
        obtain ⟨event,_,received⟩ := step_receive stepped
        obtain ⟨credit,receipt,paid⟩ := Chain.receive_exact.mp received
        obtain ⟨_,_,_,data,receiver,_,_,_,rfl⟩ := Chain.receipt_exact.mp receipt
        obtain ⟨channel,target,amount,released⟩ := Chain.pay_takes paid less
        refine .releases caller packet rfl ?_
        unfold Chain.creditOf at released
        split at released
        · exact (Credit.release.inj released).2.1
        · cases released
      | timeout caller packet =>
        obtain ⟨event,debit,_,refunded⟩ := step_timeout stepped
        exact refund_debits rfl refunded less
      | acknowledge caller packet bytes =>
        rcases step_acknowledge stepped with ⟨_,_,confirmed⟩ | ⟨failed,event,debit,_,refunded⟩
        · rw [(Chain.confirm_exact.mp confirmed).2] at less
          exact absurd less (Nat.lt_irrefl _)
        · exact refund_debits (by simp [Request.refunds?,failed]) refunded less
      | restart config =>
        cases step_ok.mp stepped
        exact absurd less (Nat.lt_irrefl _)
      | _ => exact absurd less (Nat.not_lt.mpr (Nat.le_of_eq (administered_held rfl stepped).symm))

def Escrowed (host : Host) (requests : List Request) (channel : String) (account : Address) : Prop :=
  ∃ earlier later, requests = earlier ++ later ∧ (host.run earlier).2.chain.escrowOf channel = some account

end Host

namespace Outbound
variable {known : String → Address → Prop} {outbound : Outbound}

def Traced (known : String → Address → Prop) (outbound : Outbound) : Prop :=
  ∀ id entry escrow, outbound.inFlight.find id = some entry → entry.debit = .escrowed escrow →
    known id.source.channel escrow

theorem new_traced : Traced known .new := nofun

theorem Traced.settles (traced : Traced known outbound) (packet : Packet) : Traced known (outbound.settle packet) := by
  intro id entry escrow found
  exact traced id entry escrow (settle_finds.mp found).2

theorem Traced.sends (traced : Traced known outbound) {packet : Packet} {entry : InFlight}
    (charged : ∀ escrow, entry.debit = .escrowed escrow → known packet.source.channel escrow) :
    Traced known (outbound.send packet entry) := by
  intro id other escrow found
  rw [send_find] at found
  split at found
  · rename_i here
    cases found
    cases here
    exact charged escrow
  · exact traced id other escrow found

end Outbound

namespace Host
variable {host : Host} {request : Request} {requests : List Request} {known : String → Address → Prop}

theorem step_traced (traced : Outbound.Traced known host.chain.outbound)
    (current : ∀ channel escrow, host.chain.escrowOf channel = some escrow → known channel escrow) :
    Outbound.Traced known (host.step request).2.chain.outbound := by
  cases host.step_shifts request with
  | still same unsent unreported =>
    rw [same]
    exact traced
  | sends departure departed unreported leaves =>
    rw [leaves.booked]
    refine traced.sends fun escrow charged => ?_
    have cost := leaves.cost
    rw [show departure.debit = .escrowed escrow from charged] at cost
    rcases Chain.debitFor_exact.mp cost with ⟨_,account,has,same⟩ | ⟨_,burned⟩
    · cases same
      rw [leaves.source]
      exact current _ _ has
    · cases burned
  | settles packet unsent concluded transport unsettled same =>
    rw [same]
    exact traced.settles packet
  | renews config asked same =>
    rw [same]
    exact Outbound.new_traced

theorem run_traced (traced : Outbound.Traced known host.chain.outbound)
    (current : ∀ channel escrow, host.Escrowed requests channel escrow → known channel escrow) :
    Outbound.Traced known (host.run requests).2.chain.outbound := by
  induction requests generalizing host with
  | nil => exact traced
  | cons request rest ih =>
    rw [run_cons]
    refine ih (step_traced traced ?_) ?_
    · intro channel escrow has
      exact current channel escrow ⟨[],request :: rest,rfl,has⟩
    · intro channel escrow had
      obtain ⟨earlier,later,split,has⟩ := had
      exact current channel escrow ⟨request :: earlier,later,congrArg (request :: ·) split,has⟩

theorem debits_authorized (host : Host) (requests : List Request) (new : host.chain.outbound = .new) (request : Request)
    (through : request.direct = false) (account : Address) (denom : String)
    (less : ((host.run requests).2.step request).2.chain.ledger.held account denom <
      (host.run requests).2.chain.ledger.held account denom) :
    let reached := (host.run requests).2
    (reached.step request).1.isOk = true ∧ Debits reached request account denom ∧
      ∀ channel, request.channel? = some channel → host.Escrowed requests channel account := by
  intro reached
  obtain ⟨granted,debits⟩ := step_debits through less
  have traced : Outbound.Traced (host.Escrowed requests) reached.chain.outbound :=
    run_traced (new ▸ Outbound.new_traced) fun _ _ had => had
  have current : ∀ {channel}, reached.chain.escrowOf channel = some account → host.Escrowed requests channel account :=
    fun has => ⟨requests,[],(List.append_nil _).symm,has⟩
  refine ⟨granted,debits,?_⟩
  intro channel about
  cases debits with
  | sends order asked =>
    subst asked
    cases about
  | releases caller packet asked escrow =>
    subst asked
    cases about
    exact current escrow
  | repays packet asked entry recorded escrow =>
    cases (Request.refunds_channel asked).symm.trans about
    exact traced packet.id entry account recorded escrow
  | recovers packet asked lost escrow =>
    cases (Request.refunds_channel asked).symm.trans about
    exact current escrow

def vault : Address := (loaded.chain.escrowOf "channel-0").getD .zero

theorem debits_authorized_giveUp :
    relayed.chain.outbound = .new ∧ giveUp.direct = false ∧
      let reached := (relayed.run expiryErrand).2
      reached.chain.ledger.held vault "stone" = 4 + (reached.step giveUp).2.chain.ledger.held vault "stone" ∧
        (reached.step giveUp).1.isOk = true ∧ Debits reached giveUp vault "stone" ∧
        relayed.Escrowed expiryErrand "channel-0" vault := by
  have moved : (relayed.run expiryErrand).2.chain.ledger.held vault "stone" =
      4 + ((relayed.run expiryErrand).2.step giveUp).2.chain.ledger.held vault "stone" := by decide +kernel
  have authorized := debits_authorized relayed expiryErrand rfl giveUp rfl vault "stone" (by omega)
  exact ⟨rfl,rfl,moved,authorized.1,authorized.2.1,authorized.2.2 "channel-0" rfl⟩

end Host
end TokenTransfer
