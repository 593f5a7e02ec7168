import Mathlib.Algebra.Ring.Nat
import TokenTransfer.Proofs.OutboundBooks

namespace TokenTransfer

namespace Amount

theorem addCapped_units (a b : Amount) : (a.addCapped b).units = min (a.units + b.units) most.units := by
  unfold addCapped
  cases added : a.add? b with
  | some sum =>
    have bounded := sum.bounded
    rw [add?_exact] at added
    simp only [Option.getD_some,most]
    omega
  | none =>
    have full : ¬a.units + b.units < amountBound := by
      intro room
      have fits : a.add? b = some ⟨_,room⟩ := add?_exact.mpr rfl
      rw [fits] at added
      cases added
    simp only [Option.getD_none,most]
    omega

theorem same_units {a b : Amount} (same : a.units = b.units) : a = b := by
  cases a
  cases b
  cases same
  rfl

end Amount

namespace Ledger
variable {ledger : Ledger} {denom : String}

def listedSupply (denom : String) (listed : List ((Address × String) × Amount)) : Amount :=
  (listed.filter fun entry => entry.1.2 == denom).foldl (fun total entry => total.addCapped entry.2) .zero

theorem capped_sum (entries : List ((Address × String) × Amount)) (start : Amount) :
    (entries.foldl (fun total entry => total.addCapped entry.2) start).units =
      min (start.units + (entries.map fun entry => entry.2.units).sum) Amount.most.units := by
  induction entries generalizing start with
  | nil =>
    have bounded := start.bounded
    simp only [List.foldl_nil,List.map_nil,List.sum_nil,Amount.most]
    omega
  | cons entry rest ih =>
    rw [List.foldl_cons,ih,Amount.addCapped_units,List.map_cons,List.sum_cons]
    omega

theorem circulating_listed : ledger.circulating denom =
    ((ledger.balances.entries.filter fun entry => entry.1.2 == denom).map fun entry => entry.2.units).sum := by
  unfold circulating Table.sum measure
  induction ledger.balances.entries with
  | nil => rfl
  | cons entry rest ih =>
    by_cases here : entry.1.2 = denom
    · simp [here,ih]
    · simp [here,ih]

theorem listedSupply_units {listed : List ((Address × String) × Amount)} (perm : listed.Perm ledger.balances.entries) :
    (listedSupply denom listed).units = min (ledger.circulating denom) Amount.most.units := by
  have sums := ((perm.filter fun entry => entry.1.2 == denom).map fun entry => entry.2.units).sum_nat
  unfold listedSupply
  rw [capped_sum,sums,circulating_listed]
  simp [Amount.zero]

end Ledger

namespace TransferEvent

-- What a movement brings to an account, and what it takes from it. An account that pays
-- itself is brought as much as is taken.
def brings (account : Address) (denom : String) (event : TransferEvent) : Nat :=
  if account = event.target ∧ denom = event.denom then event.amount.units else 0

def takes (account : Address) (denom : String) (event : TransferEvent) : Nat :=
  if account = event.source ∧ denom = event.denom then event.amount.units else 0

end TransferEvent

namespace Request

-- What is asked of the ledger itself, past the application, and what it comes to when
-- it is granted. Who moves what is up to the operator alone; the zero address may well
-- be one of the accounts.
def movement? : Request → Option TransferEvent
  | .mint _ target denom amount => some (.mint target denom amount)
  | .burn _ source denom amount => some (.burn source denom amount)
  | .transfer _ source target denom amount => some ⟨source,target,denom,amount⟩
  | _ => none

def minted (denom : String) : Request → Nat
  | .mint _ _ name amount => if denom = name then amount.units else 0
  | _ => 0

def burned (denom : String) : Request → Nat
  | .burn _ _ name amount => if denom = name then amount.units else 0
  | _ => 0

def bypasses : Request → Bool
  | .send .. | .receive .. | .acknowledge .. | .timeout .. => false
  | _ => true

end Request

namespace Ledger
variable {ledger next : Ledger} {caller source target : Address} {denom : String} {amount : Amount}
  {event : TransferEvent} {granted : List Request} {request : Request}

-- A movement shows in every balance but that of the zero address, which mints and
-- burns name without touching it.
def Moves (ledger : Ledger) (event : TransferEvent) (next : Ledger) : Prop :=
  ∀ account denom, account ≠ .zero →
    next.held account denom + event.takes account denom = ledger.held account denom + event.brings account denom

theorem mint_moves (done : mint caller target denom amount ledger = .ok event next) :
    event = .mint target denom amount ∧ ledger.Moves event next := by
  obtain ⟨_,_,_,told,_⟩ := mint_exact.mp done
  refine ⟨told,?_⟩
  intro account other somebody
  have nothing : event.takes account other = 0 := if_neg fun both => somebody (by rw [both.1,told]; rfl)
  rw [nothing,told]
  exact mint_held done account other

theorem burn_moves (done : burn caller source denom amount ledger = .ok event next) :
    event = .burn source denom amount ∧ ledger.Moves event next := by
  obtain ⟨_,_,_,told,_⟩ := burn_exact.mp done
  refine ⟨told,?_⟩
  intro account other somebody
  have nothing : event.brings account other = 0 := if_neg fun both => somebody (by rw [both.1,told]; rfl)
  rw [nothing,told]
  exact burn_held done account other

theorem transfer_moves (done : transfer caller source target denom amount ledger = .ok event next) :
    event = ⟨source,target,denom,amount⟩ ∧ ledger.Moves event next := by
  obtain ⟨_,_,_,told,_⟩ := transfer_exact.mp done
  refine ⟨told,?_⟩
  intro account other _
  rw [told]
  exact transfer_held done account other

structure Audited (ledger : Ledger) (granted : List Request) : Prop where
  events : ledger.events = granted.filterMap Request.movement?
  supply : ∀ denom, ledger.circulating denom + (granted.map (Request.burned denom)).sum =
    (granted.map (Request.minted denom)).sum
  balances : ∀ account denom, account ≠ .zero →
    ledger.held account denom + (ledger.events.map (TransferEvent.takes account denom)).sum =
      (ledger.events.map (TransferEvent.brings account denom)).sum

theorem new_audited (owner : Address) : (Ledger.new owner).Audited [] where
  events := rfl
  supply _ := rfl
  balances _ _ _ := rfl

theorem Audited.moved (audited : ledger.Audited granted) (asked : request.movement? = some event)
    (entered : next.events = ledger.events ++ [event]) (moves : ledger.Moves event next)
    (supply : ∀ denom, next.circulating denom + request.burned denom = ledger.circulating denom + request.minted denom) :
    next.Audited (granted ++ [request]) where
  events := by rw [entered,audited.events,List.filterMap_append,List.filterMap_cons_some asked,List.filterMap_nil]
  supply denom := by
    have before := audited.supply denom
    have step := supply denom
    simp only [List.map_append,List.map_cons,List.map_nil,List.sum_append,List.sum_cons,List.sum_nil]
    omega
  balances account denom somebody := by
    have before := audited.balances account denom somebody
    have step := moves account denom somebody
    simp only [entered,List.map_append,List.map_cons,List.map_nil,List.sum_append,List.sum_cons,List.sum_nil]
    omega

theorem Audited.stayed (audited : ledger.Audited granted) (silent : request.movement? = none)
    (idle : ∀ denom, request.minted denom = 0 ∧ request.burned denom = 0)
    (balances : next.balances = ledger.balances) (events : next.events = ledger.events) :
    next.Audited (granted ++ [request]) where
  events := by rw [events,audited.events,List.filterMap_append,List.filterMap_cons_none silent,List.filterMap_nil,
    List.append_nil]
  supply denom := by
    have before := audited.supply denom
    have same : next.circulating denom = ledger.circulating denom := by
      unfold circulating
      rw [balances]
    simp only [List.map_append,List.map_cons,List.map_nil,List.sum_append,List.sum_cons,List.sum_nil,idle,same]
    omega
  balances account denom somebody := by
    have same : next.held account denom = ledger.held account denom := by
      unfold held balance
      rw [balances]
    rw [same,events]
    exact audited.balances account denom somebody

end Ledger

namespace Host
open Ledger
variable {host next : Host} {reply : Reply} {request : Request} {requests earlier : List Request}

theorem onLedger_ok {call : Call Ledger TransferEvent} (answered : Request.onLedger call host = .ok reply next) :
    ∃ event, reply = .moved event ∧ call host.chain.ledger = .ok event next.chain.ledger := by
  unfold Request.onLedger at answered
  rw [map_eq_pure_bind] at answered
  obtain ⟨event,middle,ran,told⟩ := Call.bind_ok.mp answered
  cases told
  obtain ⟨chain,onChain,rfl⟩ := onChain_ok.mp ran
  obtain ⟨ledger,moved,rfl⟩ := Call.within_ok.mp onChain
  exact ⟨event,rfl,moved⟩

theorem perform_audited (around : request.bypasses = true) (audited : host.chain.ledger.Audited earlier)
    (answered : request.perform host = .ok reply next) : next.chain.ledger.Audited (earlier ++ [request]) := by
  cases request with
  | mint caller target denom amount =>
    obtain ⟨event,_,done⟩ := onLedger_ok answered
    obtain ⟨told,moves⟩ := mint_moves done
    exact audited.moved (told ▸ rfl) (mint_events done) moves (mint_circulating done)
  | burn caller source denom amount =>
    obtain ⟨event,_,done⟩ := onLedger_ok answered
    obtain ⟨told,moves⟩ := burn_moves done
    exact audited.moved (told ▸ rfl) (burn_events done) moves (burn_circulating done)
  | transfer caller source target denom amount =>
    obtain ⟨event,_,done⟩ := onLedger_ok answered
    obtain ⟨told,moves⟩ := transfer_moves done
    exact audited.moved (told ▸ rfl) (transfer_events done) moves (transfer_circulating done)
  | send | receive | acknowledge | timeout => cases around
  | restart config =>
    cases answered
    exact audited.stayed rfl (fun _ => ⟨rfl,rfl⟩) rfl rfl
  | _ =>
    have kept := (Request.administered_dealings rfl).ok answered
    refine audited.stayed rfl (fun _ => ⟨rfl,rfl⟩) ?_ ?_
    · have balances := congrArg (fun chain => chain.ledger.balances) kept
      exact balances
    · have events := congrArg (fun chain => chain.ledger.events) kept
      exact events

def granted (host : Host) (requests : List Request) : List Request :=
  ((requests.zip (host.run requests).1).filter fun entry => entry.2.isOk).map Prod.fst

theorem granted_cons (host : Host) (request : Request) (rest : List Request) : host.granted (request :: rest) =
    if (host.step request).1.isOk then request :: (host.step request).2.granted rest
    else (host.step request).2.granted rest := by
  unfold Host.granted
  rw [run_cons,List.zip_cons_cons,List.filter_cons]
  split <;> rfl

theorem run_audited (around : ∀ request ∈ requests, request.bypasses = true)
    (audited : host.chain.ledger.Audited earlier) :
    (host.run requests).2.chain.ledger.Audited (earlier ++ host.granted requests) := by
  induction requests generalizing host earlier with
  | nil =>
    rw [show host.granted [] = [] from rfl,List.append_nil]
    exact audited
  | cons request rest ih =>
    have later := fun other present => around other (List.mem_cons_of_mem _ present)
    rw [run_cons,granted_cons]
    cases stepped : host.step request with
    | mk answer next =>
      cases answer with
      | ok reply =>
        have step := perform_audited (around request List.mem_cons_self) audited (step_ok.mp stepped)
        have run := ih later step
        rwa [List.append_assoc] at run
      | error error =>
        apply ih later
        rw [step_error stepped]
        exact audited

theorem transfer_supply (host : Host) (caller source target : Address) (name : String) (amount : Amount) (denom : String) :
    (host.step (.transfer caller source target name amount)).2.chain.ledger.circulating denom =
      host.chain.ledger.circulating denom := by
  cases stepped : host.step (.transfer caller source target name amount) with
  | mk answer next =>
    cases answer with
    | ok reply =>
      obtain ⟨event,_,done⟩ := onLedger_ok (step_ok.mp stepped)
      exact transfer_circulating done denom
    | error error => rw [step_error stepped]

theorem ledger_audited (host : Host) (owner : Address) (new : host.chain.ledger = .new owner) (requests : List Request)
    (around : ∀ request ∈ requests, request.bypasses = true) :
    let reached := (host.run requests).2
    let ledger := reached.chain.ledger
    let granted := host.granted requests
    ledger.events = granted.filterMap Request.movement? ∧
    ∀ denom,
      ledger.circulating denom + (granted.map (Request.burned denom)).sum =
        (granted.map (Request.minted denom)).sum ∧
      (ledger.totalSupply denom).units = min (ledger.circulating denom) Amount.most.units ∧
      (∀ listed, listed.Perm ledger.balances.entries → listedSupply denom listed = ledger.totalSupply denom) ∧
      (∀ caller source target name amount,
        (reached.step (.transfer caller source target name amount)).2.chain.ledger.circulating denom =
          ledger.circulating denom) ∧
      ∀ account, account ≠ .zero →
        ledger.held account denom + (ledger.events.map (TransferEvent.takes account denom)).sum =
          (ledger.events.map (TransferEvent.brings account denom)).sum := by
  intro reached ledger granted
  have audited : ledger.Audited granted := by
    have run := run_audited around (new ▸ new_audited owner)
    rwa [List.nil_append] at run
  refine ⟨audited.events,?_⟩
  intro denom
  have total : (ledger.totalSupply denom).units = min (ledger.circulating denom) Amount.most.units :=
    listedSupply_units (List.Perm.refl _)
  refine ⟨audited.supply denom,total,?_,?_,?_⟩
  · intro listed perm
    exact Amount.same_units ((listedSupply_units perm).trans total.symm)
  · intro caller source target name amount
    exact transfer_supply reached caller source target name amount denom
  · intro account somebody
    exact audited.balances account denom somebody

-- More is minted than an amount can tell, some of it to the zero address, and one mint
-- and one transfer are refused.
def ventures : List Request :=
  [.mint relay guest "stone" (stones 9),.setOperator relay relay,.mint relay guest "stone" .most,
    .mint relay .zero "stone" (stones 5),.transfer relay .zero relay "stone" (stones 3),
    .transfer relay relay guest "stone" (stones 1),.transfer relay guest guest "stone" (stones 2),
    .burn relay guest "stone" (stones 4)]

theorem ledger_audited_ventures :
    relayed.chain.ledger = .new relay ∧ (∀ request ∈ ventures, request.bypasses = true) ∧ relay ≠ .zero ∧
      let ledger := (relayed.run ventures).2.chain.ledger
      (relayed.granted ventures).length = 6 ∧ ledger.events.length = 5 ∧
        ledger.circulating "stone" + 4 = Amount.most.units + 5 ∧ ledger.totalSupply "stone" = .most ∧
        ledger.held relay "stone" + (ledger.events.map (TransferEvent.takes relay "stone")).sum = 3 := by
  have around : ∀ request ∈ ventures, request.bypasses = true := by decide
  have somebody : relay ≠ .zero := by decide
  have sums : (relayed.granted ventures).length = 6 ∧ (relayed.run ventures).2.chain.ledger.events.length = 5 ∧
      ((relayed.granted ventures).map (Request.burned "stone")).sum = 4 ∧
      ((relayed.granted ventures).map (Request.minted "stone")).sum = Amount.most.units + 5 ∧
      ((relayed.run ventures).2.chain.ledger.events.map (TransferEvent.brings relay "stone")).sum = 3 := by
    decide +kernel
  obtain ⟨granted,events,burned,minted,brought⟩ := sums
  obtain ⟨supply,total,_,_,balances⟩ := (ledger_audited relayed relay rfl ventures around).2 "stone"
  rw [burned,minted] at supply
  have capped : ((relayed.run ventures).2.chain.ledger.totalSupply "stone").units = Amount.most.units := by omega
  exact ⟨rfl,around,somebody,granted,events,supply,Amount.same_units capped,(balances relay somebody).trans brought⟩

end Host
end TokenTransfer
