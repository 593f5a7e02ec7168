import TokenTransfer.Chain
import TokenTransfer.Proofs.Movements

namespace TokenTransfer

theorem checks_then {ε α β : Type} {first : Except ε α} {rest : α → Except ε β} {result : β} :
    (first >>= rest) = .ok result ↔ ∃ found, first = .ok found ∧ rest found = .ok result := by
  cases first with
  | ok found => simp [bind,Except.bind]
  | error reason => simp [bind,Except.bind]

theorem guard_then {ε β : Type} {first : Except ε Unit} {rest : Unit → Except ε β} {result : β} :
    (first >>= rest) = .ok result ↔ first = .ok () ∧ rest () = .ok result := by
  cases first with
  | ok found => simp [bind,Except.bind]
  | error reason => simp [bind,Except.bind]

theorem checks_fail {ε α β : Type} {first : Except ε α} {rest : α → Except ε β} {reason : ε} :
    (first >>= rest) = .error reason ↔
      first = .error reason ∨ ∃ found, first = .ok found ∧ rest found = .error reason := by
  cases first with
  | ok found => simp [bind,Except.bind]
  | error other => simp [bind,Except.bind]

namespace Chain
variable {chain next : Chain} {caller target : Address} {packet : Packet} {order : TransferOrder}
  {event : TransferEvent} {credit : Credit} {entry : InFlight} {debit : Debit} {sent : SentPacket}
  {denom channel port : String} {amount : Amount} {escrow : Option Address}

theorem payload_exact {α : Type} {read : Except PayloadError α} {value : α} :
    payload read = .ok value ↔ read = .ok value := by
  cases read with
  | ok found =>
    show Except.ok found = Except.ok value ↔ _
    simp only [Except.ok.injEq]
  | error reason =>
    constructor
    · intro accepted
      cases accepted
    · intro accepted
      cases accepted

theorem enabled_exact {error : TransferError} {flag : Bool} : enabled error flag = .ok () ↔ flag = true := by
  cases flag <;> simp [enabled]

theorem fromTransport_exact : chain.fromTransport caller = .ok () ↔ caller = chain.config.transport :=
  Guard.authorized_exact

theorem onBoundPort_exact : chain.onBoundPort port = .ok () ↔
    ∀ bound, chain.surroundings.boundPort chain.channels = some bound → bound = port := by
  unfold onBoundPort
  cases chain.surroundings.boundPort chain.channels with
  | none => simp
  | some bound =>
    simp only [Option.some.injEq,forall_eq']
    split <;> simp_all

theorem accountOf_exact {party : String} {account : Address} :
    Payload.accountOf party = .ok account ↔ Address.read? party = some account := by
  unfold Payload.accountOf
  cases Address.read? party <;> simp

theorem payable_exact {party : String} {account : Address} :
    payable party = .ok account ↔ Address.read? party = some account ∧ account ≠ .zero := by
  rw [← accountOf_exact]
  unfold payable
  cases Payload.accountOf party with
  | error reason => simp
  | ok found =>
    simp only [Except.ok.injEq]
    by_cases nobody : found = .zero
    · rw [if_pos nobody]
      simp [nobody,eq_comm]
    · rw [if_neg nobody]
      constructor
      · intro same
        cases same
        exact ⟨rfl,nobody⟩
      · intro same
        rw [same.1]

theorem pay_mint : pay (.mint target denom amount) chain = .ok event next ↔
    ∃ ledger, Ledger.mint chain.identity target denom amount chain.ledger = .ok event ledger ∧
      next = {chain with ledger} := by
  simp only [pay,onLedger,Call.get_then,Call.within_ok]

theorem pay_release : pay (.release channel escrow target denom amount) chain = .ok event next ↔
    ∃ account ledger, escrow = some account ∧
      amount.units ≤ (chain.surroundings.balance chain.ledger account denom).units ∧
      Ledger.transfer chain.identity account target denom amount chain.ledger = .ok event ledger ∧
      next = {chain with ledger} := by
  simp only [pay,onLedger,Call.get_then,Call.need_then]
  constructor
  · intro parts
    obtain ⟨account,known,paid⟩ := parts
    obtain ⟨_,covered,moved⟩ := Call.check_then.mp paid
    obtain ⟨ledger,ran,rfl⟩ := Call.within_ok.mp (Call.amend_ok.mp moved)
    exact ⟨account,ledger,known,Guard.covered_exact.mp covered,ran,rfl⟩
  · intro parts
    obtain ⟨account,ledger,known,covered,ran,rfl⟩ := parts
    refine ⟨account,known,Call.check_then.mpr ⟨(),Guard.covered_exact.mpr covered,?_⟩⟩
    exact Call.amend_ok.mpr (Call.within_ok.mpr ⟨ledger,ran,rfl⟩)

theorem pay_parts (paid : pay credit chain = .ok event next) :
    ∃ ledger, next = {chain with ledger} ∧ ledger.events = chain.ledger.events ++ [event] := by
  cases credit with
  | mint target denom amount =>
    obtain ⟨ledger,ran,rfl⟩ := pay_mint.mp paid
    exact ⟨ledger,rfl,Ledger.mint_events ran⟩
  | release channel escrow target denom amount =>
    obtain ⟨_,ledger,_,_,ran,rfl⟩ := pay_release.mp paid
    exact ⟨ledger,rfl,Ledger.transfer_events ran⟩

theorem receipt_exact : chain.receipt caller packet = .ok credit ↔
    caller = chain.config.transport ∧ chain.config.receiveEnabled = true ∧
    chain.onBoundPort packet.destination.port = .ok () ∧
    ∃ data receiver, Payload.decode chain.config.encoding packet.data = .ok data ∧
      Address.read? data.receiver = some receiver ∧ receiver ≠ .zero ∧
      credit = chain.creditOf packet data receiver := by
  unfold receipt
  simp only [checks_then,payload_exact,payable_exact]
  constructor
  · intro parts
    obtain ⟨_,transport,_,accepting,_,bound,data,decoded,receiver,⟨named,somebody⟩,result⟩ := parts
    exact ⟨fromTransport_exact.mp transport,enabled_exact.mp accepting,bound,data,receiver,decoded,named,somebody,
      (Except.ok.inj result).symm⟩
  · intro parts
    obtain ⟨transport,accepting,bound,data,receiver,decoded,named,somebody,rfl⟩ := parts
    exact ⟨(),fromTransport_exact.mpr transport,(),enabled_exact.mpr accepting,(),bound,data,decoded,receiver,
      ⟨named,somebody⟩,rfl⟩

theorem receive_exact : receive caller packet chain = .ok event next ↔
    ∃ credit, chain.receipt caller packet = .ok credit ∧ pay credit chain = .ok event next := by
  unfold receive
  rw [Call.get_then,Call.check_then]

theorem unsettled_exact : chain.unsettled packet = .ok () ↔
    chain.outbound.isSettled packet.source packet.sequence = false := by
  unfold unsettled
  split <;> simp_all

theorem refund_exact : refund packet chain = .ok (event,debit) next ↔
    chain.outbound.isSettled packet.source packet.sequence = false ∧
    ∃ entry middle, chain.charged packet = .ok entry ∧ pay (repayment packet entry) chain = .ok event middle ∧
      debit = entry.debit ∧ next = {middle with outbound := middle.outbound.settle packet} := by
  unfold refund settle
  rw [Call.get_then,Call.check_then]
  constructor
  · intro parts
    obtain ⟨_,live,checked⟩ := parts
    obtain ⟨entry,charged,paying⟩ := Call.check_then.mp checked
    obtain ⟨found,middle,paid,settled⟩ := Call.bind_ok.mp paying
    rw [Call.modify_then,Call.pure_on] at settled
    cases settled
    exact ⟨unsettled_exact.mp live,entry,middle,charged,paid,rfl,rfl⟩
  · intro parts
    obtain ⟨live,entry,middle,charged,paid,rfl,rfl⟩ := parts
    refine ⟨(),unsettled_exact.mpr live,Call.check_then.mpr ⟨entry,charged,?_⟩⟩
    exact Call.bind_ok.mpr ⟨event,middle,paid,by rw [Call.modify_then,Call.pure_on]⟩

theorem confirm_exact : confirm packet chain = .ok () next ↔
    chain.outbound.isSettled packet.source packet.sequence = false ∧
      next = {chain with outbound := chain.outbound.settle packet} := by
  unfold confirm settle
  rw [Call.get_then,Call.check_then]
  constructor
  · intro parts
    obtain ⟨_,live,settled⟩ := parts
    rw [Call.modify_on] at settled
    cases settled
    exact ⟨unsettled_exact.mp live,rfl⟩
  · intro parts
    obtain ⟨live,rfl⟩ := parts
    exact ⟨(),unsettled_exact.mpr live,rfl⟩

-- A settled packet is told so before anything else is looked at.
theorem refund_settled (settled : chain.outbound.isSettled packet.source packet.sequence = true) :
    refund packet chain = .error (.alreadySettled packet.source packet.sequence) chain := by
  unfold refund unsettled
  rw [Call.get_then,if_pos settled]
  rfl

theorem confirm_settled (settled : chain.outbound.isSettled packet.source packet.sequence = true) :
    confirm packet chain = .error (.alreadySettled packet.source packet.sequence) chain := by
  unfold confirm unsettled
  rw [Call.get_then,if_pos settled]
  rfl

theorem requirePositive_exact : Payload.requirePositive amount = .ok () ↔ amount.units ≠ 0 := by
  unfold Payload.requirePositive
  split <;> simp_all

def debitFor (chain : Chain) (source : ChannelEnd) (denom : String) : Option Debit :=
  if Denomination.leavesHome source denom then (chain.escrowOf source.channel).map .escrowed else some .burned

theorem debitFor_exact {source : ChannelEnd} : chain.debitFor source denom = some debit ↔
    Denomination.leavesHome source denom = true ∧
        (∃ escrow, chain.escrowOf source.channel = some escrow ∧ debit = .escrowed escrow) ∨
      Denomination.leavesHome source denom = false ∧ debit = .burned := by
  unfold debitFor
  cases Denomination.leavesHome source denom with
  | true =>
    rw [if_pos rfl,Option.map_eq_some_iff]
    constructor
    · intro found
      obtain ⟨escrow,known,same⟩ := found
      exact .inl ⟨rfl,escrow,known,same.symm⟩
    · intro parts
      rcases parts with ⟨_,escrow,known,rfl⟩ | ⟨home,_⟩
      · exact ⟨escrow,known,rfl⟩
      · cases home
  | false => simp [eq_comm]

def orderData (caller : Address) (order : TransferOrder) : TransferData :=
  ⟨order.denom,order.amount,caller.text,order.receiver,order.memo⟩

theorem dispatch_exact {peer : ChannelEnd} {bytes : Bytes} :
    chain.dispatch caller order = .ok (debit,peer,bytes) ↔
      chain.config.sendEnabled = true ∧ chain.onBoundPort order.source.port = .ok () ∧
      chain.surroundings.peer chain.channels order.source = some peer ∧ order.amount.units ≠ 0 ∧
      chain.debitFor order.source order.denom = some debit ∧
      Payload.encode chain.config.encoding (orderData caller order) = .ok bytes := by
  have written : ∀ cost far, (order.amount.units ≠ 0 ∧
      ∃ found, payload (Payload.encode chain.config.encoding (orderData caller order)) = .ok found ∧
        (cost,far,found) = (debit,peer,bytes)) ↔
      far = peer ∧ order.amount.units ≠ 0 ∧ cost = debit ∧
        Payload.encode chain.config.encoding (orderData caller order) = .ok bytes := by
    intro cost far
    simp only [payload_exact]
    constructor
    · intro parts
      obtain ⟨positive,found,encoded,same⟩ := parts
      cases same
      exact ⟨rfl,positive,rfl,encoded⟩
    · intro parts
      obtain ⟨rfl,positive,rfl,encoded⟩ := parts
      exact ⟨positive,bytes,encoded,rfl⟩
  unfold dispatch debitFor
  rw [guard_then,enabled_exact,guard_then]
  refine and_congr_right fun _ => and_congr_right fun _ => ?_
  cases chain.surroundings.peer chain.channels order.source with
  | none => simp [checks_then]
  | some far =>
    rw [checks_then]
    simp only [Except.ok.injEq,exists_eq_left',guard_then,payload_exact,requirePositive_exact,Option.some.injEq]
    by_cases leaves : Denomination.leavesHome order.source order.denom = true
    · rw [if_pos leaves,if_pos leaves]
      cases chain.escrowOf order.source.channel with
      | none => simp [checks_then]
      | some escrow =>
        simp only [checks_then,pure,Except.pure,Except.ok.injEq,exists_eq_left',Option.map_some,Option.some.injEq]
        exact written (.escrowed escrow) far
    · rw [if_neg leaves,if_neg leaves]
      simp only [checks_then,pure,Except.pure,Except.ok.injEq,exists_eq_left',Option.some.injEq]
      exact written .burned far

def chargeOn (ledger : Ledger) (identity caller : Address) (denom : String) (amount : Amount) :
    Debit → EStateM.Result TransferError Ledger TransferEvent
  | .escrowed escrow => Ledger.transfer identity caller escrow denom amount ledger
  | .burned => Ledger.burn identity caller denom amount ledger

theorem charge_exact : charge caller denom amount debit chain = .ok event next ↔
    ∃ ledger, chargeOn chain.ledger chain.identity caller denom amount debit = .ok event ledger ∧
      next = {chain with ledger} := by
  cases debit with
  | escrowed escrow => simp only [charge,chargeOn,onLedger,Call.get_then,Call.within_ok]
  | burned => simp only [charge,chargeOn,onLedger,Call.get_then,Call.within_ok]

def packetOf (chain : Chain) (order : TransferOrder) (peer : ChannelEnd) (bytes : Bytes) : Packet :=
  ⟨chain.outbound.next order.source,order.source,peer,bytes,order.timeoutHeight,order.timeoutTimestamp⟩

theorem send_exact : send caller order chain = .ok sent next ↔
    ∃ peer bytes debit ledger, chain.dispatch caller order = .ok (debit,peer,bytes) ∧
      chargeOn chain.ledger chain.identity caller order.denom order.amount debit = .ok sent.event ledger ∧
      sent.packet = chain.packetOf order peer bytes ∧
      next = {chain with
        ledger := ledger
        outbound := chain.outbound.send sent.packet ⟨caller,order.denom,order.amount,debit⟩} := by
  unfold send
  rw [Call.get_then,Call.check_then]
  constructor
  · intro parts
    obtain ⟨⟨debit,peer,bytes⟩,dispatched,charged⟩ := parts
    obtain ⟨event,middle,paid,booked⟩ := Call.bind_ok.mp charged
    obtain ⟨ledger,moved,rfl⟩ := charge_exact.mp paid
    rw [Call.modify_then,Call.pure_on] at booked
    cases booked
    exact ⟨peer,bytes,debit,ledger,dispatched,moved,rfl,rfl⟩
  · intro parts
    obtain ⟨peer,bytes,debit,ledger,dispatched,moved,packed,rfl⟩ := parts
    refine ⟨(debit,peer,bytes),dispatched,Call.bind_ok.mpr ⟨sent.event,_,charge_exact.mpr ⟨ledger,moved,rfl⟩,?_⟩⟩
    rw [Call.modify_then,Call.pure_on]
    obtain ⟨packet,event⟩ := sent
    subst packed
    rfl

theorem chargeOn_events {ledger after : Ledger} {identity : Address}
    (moved : chargeOn ledger identity caller denom amount debit = .ok event after) :
    after.events = ledger.events ++ [event] := by
  cases debit with
  | escrowed escrow => exact Ledger.transfer_events moved
  | burned => exact Ledger.burn_events moved

end Chain
end TokenTransfer
