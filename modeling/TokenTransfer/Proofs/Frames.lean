import TokenTransfer.Proofs.HostRules

namespace TokenTransfer

namespace Ledger
open Call

def roles (ledger : Ledger) : Address × Address := (ledger.owner,ledger.operator)

theorem record_roles (event : TransferEvent) : Keeps roles (record event) := keeps_modify_then fun _ => rfl

theorem setBalance_roles (account : Address) (denom : String) (amount : Amount) :
    Keeps roles (modify (·.setBalance account denom amount)) := keeps_modify fun _ => rfl

theorem mint_roles (caller target : Address) (denom : String) (amount : Amount) :
    Keeps roles (mint caller target denom amount) :=
  keeps_get.bind fun _ => (keeps_check _).bind fun _ => (keeps_check _).bind fun _ =>
    (setBalance_roles _ _ _).bind fun _ => record_roles _

theorem burn_roles (caller source : Address) (denom : String) (amount : Amount) :
    Keeps roles (burn caller source denom amount) :=
  keeps_get.bind fun _ => (keeps_check _).bind fun _ => (keeps_check _).bind fun _ =>
    (setBalance_roles _ _ _).bind fun _ => record_roles _

theorem transfer_roles (caller source target : Address) (denom : String) (amount : Amount) :
    Keeps roles (transfer caller source target denom amount) := by
  refine keeps_get.bind fun ledger => (keeps_check _).bind fun _ => (keeps_check _).bind fun left => ?_
  dsimp only
  split
  · apply (keeps_check _).bind
    intro sum
    exact (setBalance_roles _ _ _).bind fun _ => (setBalance_roles _ _ _).bind fun _ => record_roles _
  · exact record_roles _

end Ledger

namespace Chain
open Call
variable {α ν : Type} {view : Chain → ν}

-- A chain without what packets move: its ledger and the books on what it sent.
def setting (chain : Chain) : Chain := {chain with ledger := .new .zero, outbound := .new}

def dealings (chain : Chain) : Chain :=
  {chain with
    ledger := {chain.ledger with owner := .zero, operator := .zero}
    escrows := .new .zero
    channels := .new .zero}

-- A view that shows nothing of what packets move: of the ledger it shows the roles at
-- most, and of the books on what was sent nothing.
def Unmoved (view : Chain → ν) : Prop :=
  ∀ (chain : Chain) (ledger : Ledger) (outbound : Outbound), ledger.roles = chain.ledger.roles →
    view {chain with ledger, outbound} = view chain

theorem setting_unmoved : Unmoved setting := fun _ _ _ _ => rfl

theorem onLedger_unmoved (unmoved : Unmoved view) {call : Call Ledger α} (keeps : Keeps Ledger.roles call) :
    Keeps view (onLedger call) :=
  keeps.inside fun chain ledger same => unmoved chain ledger chain.outbound same

theorem booked_unmoved (unmoved : Unmoved view) (change : Chain → Outbound) :
    Keeps view (modify fun chain => {chain with outbound := change chain} : Call Chain PUnit) :=
  keeps_modify fun chain => unmoved chain chain.ledger (change chain) rfl

theorem pay_unmoved (unmoved : Unmoved view) (credit : Credit) : Keeps view (pay credit) := by
  cases credit with
  | mint target denom amount =>
    exact keeps_get.bind fun _ => onLedger_unmoved unmoved (Ledger.mint_roles _ _ _ _)
  | release channel escrow target denom amount =>
    refine keeps_get.bind fun chain => (keeps_need _ _).bind fun account => (keeps_check _).bind fun _ => ?_
    exact (onLedger_unmoved unmoved (Ledger.transfer_roles _ _ _ _ _)).amend _

theorem receive_unmoved (unmoved : Unmoved view) (caller : Address) (packet : Packet) :
    Keeps view (receive caller packet) :=
  keeps_get.bind fun _ => (keeps_check _).bind fun credit => pay_unmoved unmoved credit

theorem refund_unmoved (unmoved : Unmoved view) (packet : Packet) : Keeps view (refund packet) := by
  refine keeps_get.bind fun chain => (keeps_check _).bind fun _ => (keeps_check _).bind fun entry => ?_
  exact (pay_unmoved unmoved _).bind fun _ => (booked_unmoved unmoved _).bind fun _ => keeps_pure _

theorem confirm_unmoved (unmoved : Unmoved view) (packet : Packet) : Keeps view (confirm packet) :=
  keeps_get.bind fun _ => (keeps_check _).bind fun _ => booked_unmoved unmoved _

theorem charge_unmoved (unmoved : Unmoved view) (caller : Address) (denom : String) (amount : Amount) (debit : Debit) :
    Keeps view (charge caller denom amount debit) := by
  cases debit with
  | escrowed escrow => exact keeps_get.bind fun _ => onLedger_unmoved unmoved (Ledger.transfer_roles _ _ _ _ _)
  | burned => exact keeps_get.bind fun _ => onLedger_unmoved unmoved (Ledger.burn_roles _ _ _ _)

theorem send_unmoved (unmoved : Unmoved view) (caller : Address) (order : TransferOrder) :
    Keeps view (send caller order) := by
  refine keeps_get.bind fun chain => (keeps_check _).bind fun ⟨debit,peer,bytes⟩ => ?_
  exact (charge_unmoved unmoved _ _ _ _).bind fun _ => (booked_unmoved unmoved _).bind fun _ => keeps_pure _

end Chain

namespace Host
open Call
variable {ν : Type} {view : Chain → ν}

theorem refund_unmoved (unmoved : Chain.Unmoved view) (trigger : Trigger) (packet : Packet) :
    Keeps (fun host => view host.chain) (refund trigger packet) :=
  (onChain_keeps (Chain.refund_unmoved unmoved packet)).bind fun _ => keeps_modify_then fun _ => rfl

theorem acknowledge_unmoved (unmoved : Chain.Unmoved view) (caller : Address) (packet : Packet) (bytes : Bytes) :
    Keeps (fun host => view host.chain) (acknowledge caller packet bytes) := by
  refine observed_keeps (keeps_get.bind fun host => (keeps_check _).bind fun _ => ?_)
  cases Acknowledgement.read bytes with
  | success proof =>
    apply (onChain_keeps (Chain.confirm_unmoved unmoved packet)).bind
    intro _
    exact keeps_modify_then fun _ => rfl
  | failure reason =>
    have counted : Keeps (fun host => view host.chain) (count (.acknowledged false)) := keeps_modify fun _ => rfl
    apply counted.bind
    intro _
    exact (refund_unmoved unmoved .acknowledgement packet).bind fun _ => keeps_pure _

theorem timeout_unmoved (unmoved : Chain.Unmoved view) (caller : Address) (packet : Packet) :
    Keeps (fun host => view host.chain) (timeout caller packet) :=
  observed_keeps (keeps_get.bind fun _ => (keeps_check _).bind fun _ => refund_unmoved unmoved .timeout packet)

end Host
end TokenTransfer
