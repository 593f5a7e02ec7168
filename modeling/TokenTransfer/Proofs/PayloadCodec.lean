import TokenTransfer.Payload
import TokenTransfer.Proofs.AbiCodec
import TokenTransfer.Proofs.JsonCodec
import TokenTransfer.Proofs.ChainRules

namespace TokenTransfer

namespace Decimal

theorem digit_value {n : Nat} (small : n < 10) : value? (digit n) = some n := by
  have checked : ∀ m : Fin 10, value? (digit m.val) = some m.val := by decide
  exact checked ⟨n,small⟩

theorem write_nonempty (n : Nat) : write n ≠ [] := by
  rw [write]
  split <;> simp

theorem readFrom_written (n : Nat) (rest : List Char) : readFrom 0 (write n ++ rest) = readFrom n rest := by
  induction n using Nat.strongRecOn generalizing rest with
  | ind n ih =>
    rw [write]
    split
    · rename_i small
      simp [readFrom,digit_value small]
    · rename_i large
      have smaller : n / 10 < n := Nat.div_lt_self (by omega) (by decide)
      have whole : 10*(n/10) + n%10 = n := Nat.div_add_mod n 10
      rw [List.append_assoc,ih _ smaller]
      simp [readFrom,digit_value (Nat.mod_lt n (by decide)),whole]

theorem decimal_roundtrip (n : Nat) : read (write n) = some n := by
  have whole := readFrom_written n []
  rwa [List.append_nil] at whole

end Decimal

theorem Amount.text_roundtrip (amount : Amount) : Amount.read? amount.text = some amount := by
  unfold Amount.read? Amount.text Decimal.text
  rw [String.toList_ofList,Decimal.decimal_roundtrip,Option.bind_some]
  exact dif_pos amount.bounded

theorem Amount.text_filled (amount : Amount) : amount.text.isEmpty = false := by
  have filled := Decimal.write_nonempty amount.units
  cases empty : amount.text.isEmpty with
  | false => rfl
  | true =>
    rw [String.isEmpty_iff] at empty
    refine absurd ?_ filled
    have chars := congrArg String.toList empty
    unfold Amount.text Decimal.text at chars
    rwa [String.toList_ofList] at chars

namespace Address

theorem text_roundtrip (a : Address) : read? a.text = some a := by
  unfold read? text
  simp only [String.toList_ofList,true_or,if_true,Hex.hex_roundtrip,Option.bind_some]
  exact Abi.ofBytes?_bytes a

theorem text_filled (a : Address) : a.text.isEmpty = false := by
  cases empty : a.text.isEmpty with
  | false => rfl
  | true =>
    rw [String.isEmpty_iff] at empty
    have named := text_roundtrip a
    rw [empty] at named
    cases named

end Address

theorem Hex.read_length {digits : List Char} {bytes : Bytes} (found : Hex.read digits = some bytes) :
    digits.length = 2 * bytes.length := by
  induction digits using Hex.read.induct generalizing bytes with
  | case1 =>
    cases found
    rfl
  | case2 => cases found
  | case3 high low rest ih =>
    simp only [Hex.read,Option.bind_eq_bind,Option.bind_eq_some_iff] at found
    obtain ⟨h,_,l,_,others,read,joined⟩ := found
    cases joined
    have behind := ih read
    simp only [List.length_cons]
    omega

theorem Utf8.writeChar_length (c : Char) : 0 < (Utf8.writeChar c).length := by
  unfold Utf8.writeChar
  simp only
  repeat' split
  all_goals simp

theorem Utf8.write_length (text : String) : text.toList.length ≤ (Utf8.write text).length := by
  unfold Utf8.write
  induction text.toList with
  | nil => exact Nat.zero_le _
  | cons c rest ih =>
    have first := Utf8.writeChar_length c
    rw [List.flatMap_cons,List.length_append,List.length_cons]
    omega

theorem Address.read?_length {party : String} {a : Address} (named : read? party = some a) :
    42 ≤ (Utf8.write party).length := by
  have bound := Utf8.write_length party
  unfold read? at named
  split at named
  · rename_i x digits shape
    split at named
    · obtain ⟨bytes,read,taken⟩ := Option.bind_eq_some_iff.mp named
      unfold ofBytes? at taken
      split at taken
      · rename_i full
        have count := Hex.read_length read
        rw [shape] at bound
        simp only [List.length_cons] at bound
        omega
      · cases taken
    · cases named
  · cases named

namespace Payload
variable {data : TransferData} {encoding : PayloadEncoding} {bytes : Bytes} {party : String}

-- The party that comes out where a party went in: an account whose bytes are no
-- text goes as bytes and comes back in lowercase.
def carried (party : String) : String :=
  match Address.read? party with
  | some address => if Utf8.readsAsText address.bytes then party else address.text
  | none => party

theorem party_roundtrip (written : bytesOfParty party = .ok bytes) : partyOfBytes bytes = .ok (carried party) := by
  have text : Utf8.read (Utf8.write party) = some party := Utf8.utf8_roundtrip party
  unfold bytesOfParty at written
  unfold carried
  cases named : Address.read? party with
  | some address =>
    simp only [named] at written ⊢
    split at written
    · rename_i plain
      cases written
      have long := Address.read?_length named
      have wide : Address.ofBytes? (Utf8.write party) = none := dif_neg (by omega)
      rw [if_pos plain]
      simp [partyOfBytes,wide,text]
    · rename_i binary
      cases written
      rw [if_neg binary]
      unfold partyOfBytes
      rw [Abi.ofBytes?_bytes]
      exact if_neg binary
  | none =>
    simp only [named] at written ⊢
    split at written
    · cases written
    · rename_i clear
      cases written
      unfold partyOfBytes Address.ofBytes?
      by_cases sized : (Utf8.write party).length = 20
      · have plain : Utf8.readsAsText (Utf8.write party) = true := by
          cases reads : Utf8.readsAsText (Utf8.write party) with
          | true => rfl
          | false => exact absurd ⟨sized,reads⟩ clear
        simp [sized,plain,text]
      · simp [sized,text]

theorem carried_account (party : String) : Address.read? (carried party) = Address.read? party := by
  unfold carried
  cases named : Address.read? party with
  | none => exact named
  | some address =>
    simp only
    split
    · exact named
    · exact Address.text_roundtrip address

def delivered (encoding : PayloadEncoding) (data : TransferData) : TransferData :=
  match encoding with
  | .abiAddress => {data with receiver := ((Address.read? data.receiver).map Address.text).getD data.receiver}
  | .abiBytes => {data with sender := carried data.sender, receiver := carried data.receiver}
  | .json => data

theorem delivered_amount : (delivered encoding data).amount = data.amount := by
  cases encoding <;> rfl

def refusal? (encoding : PayloadEncoding) (data : TransferData) : Option PayloadError :=
  if data.denom.isEmpty then some .denomMissing
  else match encoding with
    | .json =>
      if data.sender.isEmpty then some .senderMissing
      else if data.receiver.isEmpty then some .receiverMissing
      else none
    | _ => none

theorem amount_fits (amount : Amount) : (Abi.Value.number amount.units).Fits := by
  have bounded := amount.bounded
  rw [amountBound_word] at bounded
  exact bounded

theorem tuple_decoded {sent got : String} (layout : List Abi.Kind) (sender receiver : Abi.Value)
    (kinds : [.text,.number,sender.kind,receiver.kind,.text] = layout) (fit : sender.Fits ∧ receiver.Fits)
    (sending : partyOfValue sender = .ok sent) (getting : partyOfValue receiver = .ok got)
    (short : (toTuple data sender receiver).length < UInt32.size) : decodeTuple layout (toTuple data sender receiver) =
      if data.denom.isEmpty then .error .denomMissing else .ok ⟨data.denom,data.amount,sent,got,data.memo⟩ := by
  have fits : ∀ value ∈ [Abi.Value.text data.denom,.number data.amount.units,sender,receiver,.text data.memo],
      value.Fits := by
    simp only [List.forall_mem_cons,List.not_mem_nil,false_imp_iff,implies_true,and_true]
    exact ⟨True.intro,amount_fits data.amount,fit.1,fit.2,True.intro⟩
  have layoutOf : [Abi.Value.text data.denom,.number data.amount.units,sender,receiver,.text data.memo].map
      Abi.Value.kind = layout := kinds
  have bounded : Amount.ofNat? data.amount.units = some data.amount := dif_pos data.amount.bounded
  unfold decodeTuple toTuple
  rw [← layoutOf,Abi.tuple_roundtrip fits short]
  simp only [ofTuple,bounded,sending,getting]
  rfl

theorem json_found (data : TransferData) : jsonFields (Json.write (toJson data)) =
    some [some data.denom,some data.amount.text,some data.sender,some data.receiver,
      if data.memo.isEmpty then none else some data.memo] := by
  have shape : toJson data = .ofFields (Json.textMembers ([("denom",data.denom),("amount",data.amount.text),
      ("sender",data.sender),("receiver",data.receiver)] ++
        if data.memo.isEmpty then [] else [("memo",data.memo)])) := by
    unfold toJson Json.textMembers
    split <;> rfl
  unfold jsonFields
  rw [shape,Json.record_roundtrip,Option.bind_eq_bind,Option.bind_some]
  by_cases silent : data.memo.isEmpty = true
  · rw [if_pos silent,if_pos silent,Json.fields_found]
    · simp [fieldNames,Json.textMembers,List.lookup_cons,optionalTexts,optionalText,Json.Value.text?,Json.Value.ofText,
        Json.text_roundtrip]
    · simp [Json.textMembers,fieldNames]
    · simp [Json.textMembers]
  · rw [if_neg silent,if_neg silent,Json.fields_found]
    · simp [fieldNames,Json.textMembers,List.lookup_cons,optionalTexts,optionalText,Json.Value.text?,Json.Value.ofText,
        Json.text_roundtrip]
    · simp [Json.textMembers,fieldNames]
    · simp [Json.textMembers]

theorem requireText_exact (error : PayloadError) (text : String) :
    requireText error (some text) = if text.isEmpty then .error error else .ok text := rfl

theorem ofFields_found (data : TransferData) : ofFields [some data.denom,some data.amount.text,some data.sender,
    some data.receiver,if data.memo.isEmpty then none else some data.memo] =
      match refusal? .json data with
      | some error => .error error
      | none => .ok data := by
  have memo : (if data.memo.isEmpty then none else some data.memo).getD "" = data.memo := by
    split
    · rename_i silent
      exact (String.isEmpty_iff.mp silent).symm
    · rfl
  unfold ofFields refusal?
  simp only [requireText_exact,Amount.text_filled,memo,Bool.false_eq_true,if_false,bind,Except.bind]
  by_cases noDenom : data.denom.isEmpty = true
  · simp only [noDenom,if_true]
  · by_cases noSender : data.sender.isEmpty = true
    · simp only [noDenom,noSender,Bool.false_eq_true,if_false,if_true,Amount.text_roundtrip]
    · by_cases noReceiver : data.receiver.isEmpty = true
      · simp only [noDenom,noSender,noReceiver,Bool.false_eq_true,if_false,if_true,Amount.text_roundtrip]
      · simp only [noDenom,noSender,noReceiver,Bool.false_eq_true,if_false,Amount.text_roundtrip]

theorem decode_written (encoded : encode encoding data = .ok bytes) (short : bytes.length < UInt32.size) :
    decode encoding bytes =
      match refusal? encoding data with
      | some error => .error error
      | none => .ok (delivered encoding data) := by
  obtain ⟨positive,written⟩ := guard_then.mp encoded
  -- The amount is looked at once more behind every reader, and passes.
  have checked : ∀ {read : Except PayloadError TransferData}, read = (match refusal? encoding data with
      | some error => .error error
      | none => .ok (delivered encoding data)) →
      (read >>= fun got => requirePositive got.amount >>= fun _ => pure got) = read := by
    intro read outcome
    subst outcome
    cases refusal? encoding data with
    | some error => rfl
    | none =>
      simp only [bind,Except.bind,delivered_amount,positive]
      rfl
  unfold decode
  cases encoding with
  | abiAddress =>
    obtain ⟨receiver,named,packed⟩ := checks_then.mp written
    have account := Chain.accountOf_exact.mp named
    cases packed
    have outcome : decodeTuple addressLayout (toTuple data (.text data.sender) (.account receiver)) =
        match refusal? .abiAddress data with
        | some error => .error error
        | none => .ok (delivered .abiAddress data) := by
      rw [tuple_decoded addressLayout (.text data.sender) (.account receiver) rfl ⟨True.intro,True.intro⟩ rfl rfl short]
      simp only [refusal?,delivered,account,Option.map_some,Option.getD_some]
      split <;> rfl
    exact (checked outcome).trans outcome
  | abiBytes =>
    obtain ⟨sender,sent,packing⟩ := checks_then.mp written
    obtain ⟨receiver,got,packed⟩ := checks_then.mp packing
    cases packed
    have outcome : decodeTuple bytesLayout (toTuple data (.bytes sender) (.bytes receiver)) =
        match refusal? .abiBytes data with
        | some error => .error error
        | none => .ok (delivered .abiBytes data) := by
      rw [tuple_decoded bytesLayout (.bytes sender) (.bytes receiver) rfl ⟨True.intro,True.intro⟩
        (party_roundtrip sent) (party_roundtrip got) short]
      simp only [refusal?,delivered]
      split <;> rfl
    exact (checked outcome).trans outcome
  | json =>
    cases written
    have outcome : decodeJson (Json.write (toJson data)) =
        match refusal? .json data with
        | some error => .error error
        | none => .ok (delivered .json data) := by
      unfold decodeJson
      rw [json_found]
      exact ofFields_found data
    exact (checked outcome).trans outcome

theorem decode_delivered {found : TransferData} (encoded : encode encoding data = .ok bytes)
    (short : bytes.length < UInt32.size) (decoded : decode encoding bytes = .ok found) :
    found = delivered encoding data := by
  rw [decode_written encoded short] at decoded
  cases refused : refusal? encoding data with
  | some error =>
    rw [refused] at decoded
    cases decoded
  | none =>
    rw [refused] at decoded
    exact (Except.ok.inj decoded).symm

theorem delivered_denom : (delivered encoding data).denom = data.denom := by
  cases encoding <;> rfl

theorem delivered_memo : (delivered encoding data).memo = data.memo := by
  cases encoding <;> rfl

theorem delivered_sender : Address.read? (delivered encoding data).sender = Address.read? data.sender := by
  cases encoding with
  | abiAddress => rfl
  | abiBytes => exact carried_account data.sender
  | json => rfl

theorem delivered_receiver : Address.read? (delivered encoding data).receiver = Address.read? data.receiver := by
  cases encoding with
  | abiAddress =>
    unfold delivered
    cases named : Address.read? data.receiver with
    | none => exact named
    | some account => exact Address.text_roundtrip account
  | abiBytes => exact carried_account data.receiver
  | json => rfl

theorem decode_faithful {found : TransferData} (encoded : encode encoding data = .ok bytes)
    (short : bytes.length < UInt32.size) (decoded : decode encoding bytes = .ok found) :
    found.denom = data.denom ∧ found.amount = data.amount ∧
      Address.read? found.sender = Address.read? data.sender ∧
      Address.read? found.receiver = Address.read? data.receiver := by
  rw [decode_delivered encoded short decoded]
  exact ⟨delivered_denom,delivered_amount,delivered_sender,delivered_receiver⟩

end Payload
end TokenTransfer
