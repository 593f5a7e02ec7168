import TokenTransfer.Proofs.Parties

namespace TokenTransfer

namespace Abi
variable {data : Bytes} {place : Nat} {kind : Kind} {value : Value} {kinds : List Kind} {values : List Value}

theorem readValue_kind (found : readValue data place kind = some value) : value.kind = kind := by
  cases kind with
  | text | bytes | number =>
    obtain ⟨content,_,rfl⟩ := Option.map_eq_some_iff.mp found
    rfl
  | account =>
    simp only [readValue,Option.bind_eq_bind,Option.bind_eq_some_iff] at found
    obtain ⟨word,_,address,_,made⟩ := found
    cases made
    rfl

theorem readValues_kinds (found : readValues data place kinds = some values) : values.map Value.kind = kinds := by
  induction kinds generalizing place values with
  | nil =>
    cases found
    rfl
  | cons kind rest ih =>
    simp only [readValues,Option.bind_eq_bind,Option.bind_eq_some_iff] at found
    obtain ⟨value,first,others,behind,made⟩ := found
    cases made
    rw [List.map_cons,readValue_kind first,ih behind]

theorem readTuple_kinds (found : readTuple kinds data = .ok values) : values.map Value.kind = kinds := by
  unfold readTuple at found
  split at found
  · cases found
  · split at found
    · rename_i read
      cases found
      obtain ⟨start,_,here⟩ := Option.bind_eq_some_iff.mp read
      exact readValues_kinds here
    · cases found

end Abi

namespace Payload
variable {encoding : PayloadEncoding} {data : TransferData} {bytes : Bytes} {party : String}

def Unwritable : PayloadEncoding → TransferData → Prop
  | .abiAddress,data => Address.read? data.receiver = none
  | .abiBytes,data => Ambiguous data.sender ∨ Ambiguous data.receiver
  | .json,_ => False

instance (encoding : PayloadEncoding) (data : TransferData) : Decidable (Unwritable encoding data) :=
  match encoding with
  | .abiAddress => inferInstanceAs (Decidable (_ = _))
  | .abiBytes => inferInstanceAs (Decidable (_ ∨ _))
  | .json => .isFalse id

def restated : PayloadEncoding → TransferData → TransferData
  | .abiAddress,data => {data with receiver := data.receiver.toLower}
  | .abiBytes,data => {data with
      sender := if Raw data.sender then data.sender.toLower else data.sender
      receiver := if Raw data.receiver then data.receiver.toLower else data.receiver}
  | .json,data => data

def Filled (encoding : PayloadEncoding) (data : TransferData) : Prop :=
  data.denom ≠ "" ∧ (encoding = .json → data.sender ≠ "" ∧ data.receiver ≠ "")

theorem refusal_none : refusal? encoding data = none ↔ Filled encoding data := by
  unfold refusal? Filled
  cases encoding with
  | abiAddress | abiBytes => simp [String.isEmpty_iff]
  | json =>
    by_cases unnamed : data.denom = "" <;> by_cases sender : data.sender = "" <;>
      by_cases receiver : data.receiver = "" <;> simp [unnamed,sender,receiver,String.isEmpty_iff]

theorem encode_done : (∃ bytes, encode encoding data = .ok bytes) ↔ data.amount.units ≠ 0 ∧ ¬Unwritable encoding data := by
  unfold encode
  simp only [guard_then,Chain.requirePositive_exact,exists_and_left]
  refine and_congr_right fun _ => ?_
  cases encoding with
  | abiAddress =>
    simp only [checks_then,Chain.accountOf_exact,Unwritable]
    cases Address.read? data.receiver with
    | none => simp
    | some account => simp [pure,Except.pure]
  | abiBytes =>
    simp only [checks_then,Unwritable,not_or,← bytesOfParty_writes]
    constructor
    · intro written
      obtain ⟨_,sender,sent,receiver,got,_⟩ := written
      exact ⟨⟨sender,sent⟩,⟨receiver,got⟩⟩
    · intro parties
      obtain ⟨⟨sender,sent⟩,⟨receiver,got⟩⟩ := parties
      exact ⟨_,sender,sent,receiver,got,rfl⟩
  | json => exact ⟨fun _ => id,fun _ => ⟨_,rfl⟩⟩

theorem encode_fails (positive : data.amount.units ≠ 0) :
    (∃ error, encode encoding data = .error error) ↔ Unwritable encoding data := by
  have done : (∃ bytes, encode encoding data = .ok bytes) ↔ _ := encode_done
  cases written : encode encoding data with
  | ok bytes =>
    have writable := (done.mp ⟨bytes,written⟩).2
    simp [writable]
  | error error =>
    rw [written] at done
    refine ⟨fun _ => Decidable.byContradiction fun writable => ?_,fun _ => ⟨error,rfl⟩⟩
    obtain ⟨bytes,ended⟩ := done.mpr ⟨positive,writable⟩
    cases ended

theorem delivered_restated (writable : ¬Unwritable encoding data) : delivered encoding data = restated encoding data := by
  cases encoding with
  | abiAddress =>
    cases named : Address.read? data.receiver with
    | none => exact absurd named writable
    | some account => simp only [delivered,restated,named,Option.map_some,Option.getD_some,Address.text_lower named]
  | abiBytes => simp only [delivered,restated,carried_exact]
  | json => rfl

theorem decode_restated (written : encode encoding data = .ok bytes) (short : bytes.length < UInt32.size)
    (filled : Filled encoding data) : decode encoding bytes = .ok (restated encoding data) := by
  have writable := (encode_done.mp ⟨bytes,written⟩).2
  rw [decode_written written short,refusal_none.mpr filled,delivered_restated writable]

theorem payload_roundtrip (encoding : PayloadEncoding) (data : TransferData) (positive : 1 ≤ data.amount.units)
    (filled : Filled encoding data) :
    ((∃ error, encode encoding data = .error error) ↔ Unwritable encoding data) ∧
      ∀ bytes, encode encoding data = .ok bytes → bytes.length < UInt32.size →
        decode encoding bytes = .ok (restated encoding data) :=
  ⟨encode_fails (by omega),fun _ written short => decode_restated written short filled⟩

-- A sender of twenty plain bytes and a receiver in capitals, one of whose bytes is no text.
def shout : TransferData :=
  ⟨"transfer/channel-0/stone",⟨4,by decide⟩,"cosmos1abcdefghijklm","0XABABABABABABABABABABABABABABABABABABABAB","für \"dich\""⟩

theorem payload_roundtrip_shout :
    1 ≤ shout.amount.units ∧ Filled .abiBytes shout ∧ ¬(∃ error, encode .abiBytes shout = .error error) ∧
      ∃ bytes, encode .abiBytes shout = .ok bytes ∧ bytes.length < UInt32.size ∧
        decode .abiBytes bytes = .ok {shout with receiver := "0xabababababababababababababababababababab"} := by
  have positive : 1 ≤ shout.amount.units := by decide
  have filled : Filled .abiBytes shout := ⟨by decide,nofun⟩
  have facts : ¬Unwritable .abiBytes shout ∧
      restated .abiBytes shout = {shout with receiver := "0xabababababababababababababababababababab"} ∧
      ∀ bytes ∈ (encode .abiBytes shout).toOption, bytes.length < UInt32.size := by decide +kernel
  obtain ⟨writable,capitals,short⟩ := facts
  obtain ⟨bytes,written⟩ := encode_done.mpr ⟨Nat.ne_of_gt positive,writable⟩
  have fits : bytes.length < UInt32.size := short bytes (by rw [written]; rfl)
  have whole := payload_roundtrip .abiBytes shout positive filled
  exact ⟨positive,filled,fun fails => writable (whole.1.mp fails),bytes,written,fits,
    capitals ▸ whole.2 bytes written fits⟩

theorem ofTuple_parts {values : List Abi.Value} (made : ofTuple values = .ok data) :
    data.denom ≠ "" ∧ ∃ units sender receiver,
      values = [.text data.denom,.number units,sender,receiver,.text data.memo] ∧
        partyOfValue sender = .ok data.sender ∧ partyOfValue receiver = .ok data.receiver := by
  unfold ofTuple at made
  split at made
  · rename_i denom units sender receiver memo
    split at made
    · cases made
    · rename_i amount bounded
      simp only [checks_then] at made
      obtain ⟨from?,sent,to?,got,made⟩ := made
      split at made
      · cases made
      · rename_i named
        cases made
        exact ⟨fun empty => named (String.isEmpty_iff.mpr empty),units,sender,receiver,rfl,sent,got⟩
  · cases made

theorem decodeTuple_parts {sending getting : Abi.Kind}
    (decoded : decodeTuple [.text,.number,sending,getting,.text] bytes = .ok data) : data.denom ≠ "" ∧
      (∃ value, value.kind = sending ∧ partyOfValue value = .ok data.sender) ∧
      ∃ value, value.kind = getting ∧ partyOfValue value = .ok data.receiver := by
  unfold decodeTuple at decoded
  split at decoded
  · cases decoded
  · rename_i values read
    have kinds := Abi.readTuple_kinds read
    obtain ⟨named,units,sender,receiver,rfl,sent,got⟩ := ofTuple_parts decoded
    simp only [List.map_cons,List.map_nil,List.cons.injEq] at kinds
    exact ⟨named,⟨sender,kinds.2.2.1,sent⟩,receiver,kinds.2.2.2.1,got⟩

theorem requireText_filled {error : PayloadError} {field : Option String} {text : String}
    (found : requireText error field = .ok text) : text ≠ "" := by
  cases field with
  | none => cases found
  | some given =>
    rw [requireText_exact] at found
    split at found
    · cases found
    · rename_i filled
      cases found
      exact fun empty => filled (String.isEmpty_iff.mpr empty)

theorem ofFields_filled {texts : List (Option String)} (made : ofFields texts = .ok data) :
    data.denom ≠ "" ∧ data.sender ≠ "" ∧ data.receiver ≠ "" := by
  unfold ofFields at made
  split at made
  · simp only [checks_then] at made
    obtain ⟨denom,named,digits,_,made⟩ := made
    split at made
    · cases made
    · simp only [checks_then] at made
      obtain ⟨sender,sent,receiver,got,made⟩ := made
      cases made
      exact ⟨requireText_filled named,requireText_filled sent,requireText_filled got⟩
  · cases made

theorem decode_exact : decode encoding bytes = .ok data ↔
    (match encoding with
      | .abiAddress => decodeTuple addressLayout bytes
      | .abiBytes => decodeTuple bytesLayout bytes
      | .json => decodeJson bytes) = .ok data ∧ data.amount.units ≠ 0 := by
  have positive : ∀ {read : Except PayloadError TransferData},
      (read >>= fun found => requirePositive found.amount >>= fun _ => pure found) = .ok data ↔
        read = .ok data ∧ data.amount.units ≠ 0 := by
    intro read
    rw [checks_then]
    constructor
    · intro parts
      obtain ⟨found,here,checked⟩ := parts
      obtain ⟨some,same⟩ := guard_then.mp checked
      cases same
      exact ⟨here,Chain.requirePositive_exact.mp some⟩
    · intro parts
      exact ⟨data,parts.1,guard_then.mpr ⟨Chain.requirePositive_exact.mpr parts.2,rfl⟩⟩
  unfold decode
  cases encoding with
  | abiAddress | abiBytes | json => exact positive

-- The image of the reader lies in the domain of the writer.
theorem decode_parts (decoded : decode encoding bytes = .ok data) :
    1 ≤ data.amount.units ∧ Filled encoding data ∧ ¬Unwritable encoding data := by
  obtain ⟨read,positive⟩ := decode_exact.mp decoded
  refine ⟨by omega,?_⟩
  cases encoding with
  | abiAddress =>
    obtain ⟨named,_,value,account,got⟩ := decodeTuple_parts read
    refine ⟨⟨named,nofun⟩,?_⟩
    cases value with
    | account address =>
      have shown : address.text = data.receiver := Except.ok.inj got
      unfold Unwritable
      simp [← shown,Address.text_roundtrip]
    | text | number | bytes => cases account
  | abiBytes =>
    obtain ⟨named,⟨sender,sending,sent⟩,receiver,getting,got⟩ := decodeTuple_parts read
    refine ⟨⟨named,nofun⟩,?_⟩
    cases sender with
    | bytes sender =>
      cases receiver with
      | bytes receiver => exact not_or.mpr ⟨partyOfBytes_clear sent,partyOfBytes_clear got⟩
      | text | number | account => cases getting
    | text | number | account => cases sending
  | json =>
    unfold decodeJson at read
    simp only at read
    split at read
    · cases read
    · obtain ⟨named,sender,receiver⟩ := ofFields_filled read
      exact ⟨⟨named,fun _ => ⟨sender,receiver⟩⟩,id⟩

theorem decode_lower (decoded : decode .abiAddress bytes = .ok data) : data.receiver.toLower = data.receiver := by
  obtain ⟨read,_⟩ := decode_exact.mp decoded
  obtain ⟨_,_,value,account,got⟩ := decodeTuple_parts read
  cases value with
  | account address =>
    have shown : address.text = data.receiver := Except.ok.inj got
    rw [← shown,← Address.text_lower (Address.text_roundtrip address)]
  | text | number | bytes => cases account

-- The same party, up to the case of the letters of an account: it names the same
-- account, or fails to name one in the same way.
def SameParty (before after : String) : Prop :=
  accountOf after = accountOf before ∧
    (after = before ∨ (Address.read? before).isSome = true ∧ after.toLower = before.toLower)

theorem SameParty.refl (party : String) : SameParty party party := ⟨rfl,.inl rfl⟩

theorem SameParty.symm {before after : String} (same : SameParty before after) : SameParty after before := by
  obtain ⟨account,spelled | ⟨named,letters⟩⟩ := same
  · exact ⟨account.symm,.inl spelled.symm⟩
  · refine ⟨account.symm,.inr ⟨?_,letters.symm⟩⟩
    unfold accountOf at account
    cases found : Address.read? after with
    | some address => rfl
    | none =>
      obtain ⟨address,known⟩ := Option.isSome_iff_exists.mp named
      rw [found,known] at account
      cases account

theorem lowered_party {party : String} {address : Address} (named : Address.read? party = some address) :
    SameParty party party.toLower := by
  have again := Address.text_roundtrip address
  rw [← Address.text_lower named]
  refine ⟨?_,.inr ⟨by rw [named]; rfl,?_⟩⟩
  · unfold accountOf
    rw [again,named]
  · rw [← Address.text_lower again,Address.text_lower named]

theorem restated_party (party : String) : SameParty party (if Raw party then party.toLower else party) := by
  split
  · rename_i raw
    obtain ⟨address,named,_⟩ := raw
    exact lowered_party named
  · exact SameParty.refl party

theorem decoded_rewrites (encoding : PayloadEncoding) (bytes : Bytes) (data : TransferData)
    (decoded : decode encoding bytes = .ok data) :
    1 ≤ data.amount.units ∧ data.denom ≠ "" ∧ ∃ again, encode encoding data = .ok again ∧
      (again.length < UInt32.size → ∃ found, decode encoding again = .ok found ∧
        (encoding ≠ .abiBytes → found = data) ∧
        found.denom = data.denom ∧ found.amount = data.amount ∧ found.memo = data.memo ∧
        SameParty data.sender found.sender ∧ SameParty data.receiver found.receiver) := by
  obtain ⟨positive,filled,writable⟩ := decode_parts decoded
  obtain ⟨again,written⟩ := encode_done.mpr ⟨by omega,writable⟩
  refine ⟨positive,filled.1,again,written,fun short => ⟨_,decode_restated written short filled,?_⟩⟩
  cases encoding with
  | abiAddress =>
    have same : restated .abiAddress data = data := by
      simp only [restated,decode_lower decoded]
    rw [same]
    exact ⟨fun _ => rfl,rfl,rfl,rfl,.refl _,.refl _⟩
  | abiBytes => exact ⟨fun other => absurd rfl other,rfl,rfl,rfl,restated_party _,restated_party _⟩
  | json => exact ⟨fun _ => rfl,rfl,rfl,rfl,.refl _,.refl _⟩

-- Behind the tuple stands a byte that nobody reads; its sender is an account in capitals
-- that went as text, and its receiver the same account as bytes.
def echo : Bytes :=
  Abi.writeTuple [.text "stone",.number 4,.bytes (Utf8.write shout.receiver),.bytes (List.replicate 20 171),.text ""] ++ [255]

def echoed : TransferData :=
  ⟨"stone",⟨4,by decide⟩,shout.receiver,"0xabababababababababababababababababababab",""⟩

theorem decoded_rewrites_echo :
    decode .abiBytes echo = .ok echoed ∧ ∃ again found, encode .abiBytes echoed = .ok again ∧ again ≠ echo ∧
      again.length < UInt32.size ∧ decode .abiBytes again = .ok found ∧ SameParty echoed.sender found.sender ∧
      SameParty echoed.receiver found.receiver := by
  have facts : (decode .abiBytes echo).toOption = some echoed ∧
      ∀ again ∈ (encode .abiBytes echoed).toOption, again ≠ echo ∧ again.length < UInt32.size := by decide +kernel
  obtain ⟨read,fresh⟩ := facts
  have decoded : decode .abiBytes echo = .ok echoed := by
    cases found : decode .abiBytes echo with
    | error error => rw [found] at read; cases read
    | ok data => rw [found] at read; cases read; rfl
  obtain ⟨_,_,again,written,rest⟩ := decoded_rewrites .abiBytes echo echoed decoded
  obtain ⟨other,short⟩ := fresh again (by rw [written]; rfl)
  obtain ⟨found,reread,_,_,_,_,sender,receiver⟩ := rest short
  exact ⟨decoded,again,found,written,other,short,reread,sender,receiver⟩

end Payload
end TokenTransfer
