import TokenTransfer.Proofs.ChainRules

namespace TokenTransfer

theorem Amount.fits {n : Nat} : (∃ amount : Amount, amount.units = n) ↔ n ≤ Amount.most.units := by
  have last : Amount.most.units + 1 = amountBound := by decide
  constructor
  · intro found
    obtain ⟨amount,rfl⟩ := found
    have bounded := amount.bounded
    omega
  · intro small
    exact ⟨⟨n,by omega⟩,rfl⟩

namespace Credit

def target : Credit → Address
  | .mint target _ _ => target
  | .release _ _ target _ _ => target

def denom : Credit → String
  | .mint _ denom _ => denom
  | .release _ _ _ denom _ => denom

def amount : Credit → Amount
  | .mint _ _ amount => amount
  | .release _ _ _ _ amount => amount

def payer : Credit → Option Address
  | .mint .. => none
  | .release _ escrow .. => escrow

-- The movement by which a credit is paid. The zero address stands in where nobody pays.
def movement (credit : Credit) : TransferEvent :=
  ⟨credit.payer.getD .zero,credit.target,credit.denom,credit.amount⟩

end Credit

namespace Ledger
variable {ledger next : Ledger} {caller source target account : Address} {denom : String} {amount : Amount}
  {event : TransferEvent}

theorem mint_done : (∃ event next, mint caller target denom amount ledger = .ok event next) ↔
    ledger.Operates caller ∧ ledger.held target denom + amount.units ≤ Amount.most.units := by
  simp only [mint_exact,← Amount.fits]
  constructor
  · intro done
    obtain ⟨event,next,allowed,sum,credited,_⟩ := done
    exact ⟨allowed,sum,credited⟩
  · intro parts
    obtain ⟨allowed,sum,credited⟩ := parts
    exact ⟨_,_,allowed,sum,credited,rfl,rfl⟩

theorem transfer_done : (∃ event next, transfer caller source target denom amount ledger = .ok event next) ↔
    ledger.Operates caller ∧ amount.units ≤ ledger.held source denom ∧
      (source = target ∨ ledger.held target denom + amount.units ≤ Amount.most.units) := by
  simp only [transfer_exact,← Amount.fits]
  constructor
  · intro done
    obtain ⟨event,next,allowed,left,debited,_,same | ⟨_,sum,credited,_⟩⟩ := done
    · exact ⟨allowed,by omega,.inl same.1⟩
    · exact ⟨allowed,by omega,.inr ⟨sum,credited⟩⟩
  · intro parts
    obtain ⟨allowed,covered,room⟩ := parts
    have bounded : ledger.held source denom - amount.units ≤ Amount.most.units :=
      Nat.le_trans (Nat.sub_le _ _) (Amount.fits.mp ⟨_,rfl⟩)
    obtain ⟨left,rest⟩ := Amount.fits.mpr bounded
    have debited : left.units + amount.units = ledger.held source denom := by omega
    by_cases self : source = target
    · exact ⟨_,_,allowed,left,debited,rfl,.inl ⟨self,rfl⟩⟩
    · obtain ⟨sum,credited⟩ := room.resolve_left self
      exact ⟨_,_,allowed,left,debited,rfl,.inr ⟨self,sum,credited,rfl⟩⟩

-- When a ledger can pay a credit, to one who operates it. An escrow that pays itself only
-- has to hold the amount.
def Pays (ledger : Ledger) (caller : Address) (credit : Credit) : Prop :=
  ledger.Operates caller ∧
    match credit with
    | .mint target denom amount => ledger.held target denom + amount.units ≤ Amount.most.units
    | .release _ escrow target denom amount => ∃ account, escrow = some account ∧
        amount.units ≤ ledger.held account denom ∧
        (account = target ∨ ledger.held target denom + amount.units ≤ Amount.most.units)

structure Paid (payer : Option Address) (event : TransferEvent) (before after : Ledger) : Prop where
  owner : after.owner = before.owner
  operator : after.operator = before.operator
  events : after.events = before.events ++ [event]
  moved : ∀ account denom, after.held account denom +
      (if payer = some account ∧ denom = event.denom then event.amount.units else 0) =
    before.held account denom + if account = event.target ∧ denom = event.denom then event.amount.units else 0

theorem mint_paid (minted : mint caller target denom amount ledger = .ok event next) :
    event = .mint target denom amount ∧ Paid none event ledger next := by
  have entered := mint_events minted
  have moved := mint_held minted
  obtain ⟨_,_,_,rfl,same⟩ := mint_exact.mp minted
  refine ⟨rfl,same ▸ rfl,same ▸ rfl,entered,?_⟩
  intro account asked
  rw [if_neg (by simp),Nat.add_zero]
  exact moved account asked

theorem transfer_paid (done : transfer caller source target denom amount ledger = .ok event next) :
    event = ⟨source,target,denom,amount⟩ ∧ Paid (some source) event ledger next := by
  have entered := transfer_events done
  have moved := transfer_held done
  have kept : next.owner = ledger.owner ∧ next.operator = ledger.operator := by
    obtain ⟨_,_,_,_,⟨_,rfl⟩ | ⟨_,_,_,rfl⟩⟩ := transfer_exact.mp done
    · exact ⟨rfl,rfl⟩
    · exact ⟨rfl,rfl⟩
  obtain ⟨_,_,_,rfl,_⟩ := transfer_exact.mp done
  refine ⟨rfl,kept.1,kept.2,entered,?_⟩
  intro account asked
  simpa [eq_comm] using moved account asked

end Ledger

namespace Chain
variable {chain next : Chain} {credit : Credit} {event : TransferEvent}

theorem pay_done (plain : chain.surroundings.balance = Ledger.balance) :
    (∃ event next, pay credit chain = .ok event next) ↔ chain.ledger.Pays chain.identity credit := by
  cases credit with
  | mint target denom amount =>
    refine Iff.trans ?_ Ledger.mint_done
    constructor
    · intro done
      obtain ⟨event,next,paid⟩ := done
      obtain ⟨ledger,minted,_⟩ := pay_mint.mp paid
      exact ⟨event,ledger,minted⟩
    · intro done
      obtain ⟨event,ledger,minted⟩ := done
      exact ⟨event,_,pay_mint.mpr ⟨ledger,minted,rfl⟩⟩
  | release channel escrow target denom amount =>
    constructor
    · intro done
      obtain ⟨event,next,paid⟩ := done
      obtain ⟨account,ledger,known,_,moved,_⟩ := pay_release.mp paid
      obtain ⟨allowed,covered,room⟩ := Ledger.transfer_done.mp ⟨event,ledger,moved⟩
      exact ⟨allowed,account,known,covered,room⟩
    · intro pays
      obtain ⟨allowed,account,known,covered,room⟩ := pays
      obtain ⟨event,ledger,moved⟩ := Ledger.transfer_done.mpr ⟨allowed,covered,room⟩
      refine ⟨event,_,pay_release.mpr ⟨account,ledger,known,?_,moved,rfl⟩⟩
      rw [plain]
      exact covered

theorem pay_backed {channel denom : String} {escrow : Option Address} {target : Address} {amount : Amount}
    (paid : pay (.release channel escrow target denom amount) chain = .ok event next) : ∃ account, escrow = some account := by
  obtain ⟨account,_,known,_⟩ := pay_release.mp paid
  exact ⟨account,known⟩

theorem pay_paid (paid : pay credit chain = .ok event next) : event = credit.movement ∧
    ∃ ledger, next = {chain with ledger} ∧ Ledger.Paid credit.payer event chain.ledger ledger := by
  cases credit with
  | mint target denom amount =>
    obtain ⟨ledger,minted,rfl⟩ := pay_mint.mp paid
    obtain ⟨told,moved⟩ := Ledger.mint_paid minted
    exact ⟨told,ledger,rfl,moved⟩
  | release channel escrow target denom amount =>
    obtain ⟨account,ledger,rfl,_,ran,rfl⟩ := pay_release.mp paid
    obtain ⟨told,moved⟩ := Ledger.transfer_paid ran
    exact ⟨told,ledger,rfl,moved⟩

end Chain
end TokenTransfer
