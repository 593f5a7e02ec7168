import TokenTransfer.Proofs.PayloadRoundTrip

namespace TokenTransfer.Payload
variable {data : TransferData} {one two : Bytes}

def Alike (data : TransferData) : Prop :=
  (Raw data.sender → data.sender.toLower = data.sender) ∧
    (Raw data.receiver ∨ data.receiver.toLower = data.receiver)

instance (data : TransferData) : Decidable (Alike data) := inferInstanceAs (Decidable (_ ∧ _))

theorem restated_alike : restated .abiBytes data = restated .abiAddress data ↔ Alike data := by
  have parties : restated .abiBytes data = restated .abiAddress data ↔
      (if Raw data.sender then data.sender.toLower else data.sender) = data.sender ∧
        (if Raw data.receiver then data.receiver.toLower else data.receiver) = data.receiver.toLower := by
    simp only [restated,TransferData.mk.injEq,true_and,and_true]
  rw [parties]
  unfold Alike
  refine and_congr ?_ ?_
  · by_cases raw : Raw data.sender
    · simp [raw]
    · simp [raw]
  · by_cases raw : Raw data.receiver
    · simp [raw]
    · simp [raw,eq_comm]

-- The receiver is an account in both forms, so that its letters are all that may differ.
theorem restated_parties (writable : ¬Unwritable .abiAddress data) :
    SameParty (restated .abiAddress data).sender (restated .abiBytes data).sender ∧
      SameParty (restated .abiAddress data).receiver (restated .abiBytes data).receiver := by
  refine ⟨restated_party data.sender,?_⟩
  obtain ⟨account,named⟩ := Option.ne_none_iff_exists'.mp writable
  show SameParty data.receiver.toLower (if Raw data.receiver then data.receiver.toLower else data.receiver)
  split
  · exact .refl _
  · exact (lowered_party named).symm

theorem profiles_agree (data : TransferData) (one two : Bytes) (named : data.denom ≠ "")
    (first : encode .abiAddress data = .ok one) (second : encode .abiBytes data = .ok two)
    (brief : one.length < UInt32.size) (short : two.length < UInt32.size) :
    ∃ left right, decode .abiAddress one = .ok left ∧ decode .abiBytes two = .ok right ∧
      right.denom = left.denom ∧ right.amount = left.amount ∧ right.memo = left.memo ∧
      SameParty left.sender right.sender ∧ SameParty left.receiver right.receiver ∧ (right = left ↔ Alike data) := by
  have left := decode_restated first brief ⟨named,nofun⟩
  have right := decode_restated second short ⟨named,nofun⟩
  obtain ⟨sender,receiver⟩ := restated_parties (encode_done.mp ⟨one,first⟩).2
  exact ⟨_,_,left,right,rfl,rfl,rfl,sender,receiver,restated_alike⟩

theorem profiles_agree_shout :
    shout.denom ≠ "" ∧ ∃ one two left right, encode .abiAddress shout = .ok one ∧ encode .abiBytes shout = .ok two ∧
      one.length < UInt32.size ∧ two.length < UInt32.size ∧ one ≠ two ∧
      decode .abiAddress one = .ok left ∧ decode .abiBytes two = .ok right ∧ right = left := by
  have facts : shout.denom ≠ "" ∧ Alike shout ∧ ¬Unwritable .abiAddress shout ∧ ¬Unwritable .abiBytes shout ∧
      ∀ one ∈ (encode .abiAddress shout).toOption, ∀ two ∈ (encode .abiBytes shout).toOption,
        one.length < UInt32.size ∧ two.length < UInt32.size ∧ one ≠ two := by decide +kernel
  obtain ⟨named,alike,addressed,clear,small⟩ := facts
  obtain ⟨one,first⟩ := encode_done.mpr ⟨by decide,addressed⟩
  obtain ⟨two,second⟩ := encode_done.mpr ⟨by decide,clear⟩
  obtain ⟨brief,short,apart⟩ := small one (by rw [first]; rfl) two (by rw [second]; rfl)
  obtain ⟨left,right,read,also,_,_,_,_,_,same⟩ := profiles_agree shout one two named first second brief short
  exact ⟨named,one,two,left,right,first,second,brief,short,apart,read,also,same.mpr alike⟩

-- A sender in capitals goes as text in the one form and as its account in the other.
theorem profiles_differ :
    echoed.denom ≠ "" ∧ ∃ one two left right, encode .abiAddress echoed = .ok one ∧ encode .abiBytes echoed = .ok two ∧
      one.length < UInt32.size ∧ two.length < UInt32.size ∧
      decode .abiAddress one = .ok left ∧ decode .abiBytes two = .ok right ∧
      left.sender = "0XABABABABABABABABABABABABABABABABABABABAB" ∧
      right.sender = "0xabababababababababababababababababababab" ∧ right ≠ left := by
  have facts : echoed.denom ≠ "" ∧ ¬Unwritable .abiAddress echoed ∧ ¬Unwritable .abiBytes echoed ∧
      (restated .abiBytes echoed).sender = "0xabababababababababababababababababababab" ∧
      ∀ one ∈ (encode .abiAddress echoed).toOption, ∀ two ∈ (encode .abiBytes echoed).toOption,
        one.length < UInt32.size ∧ two.length < UInt32.size := by decide +kernel
  obtain ⟨named,addressed,clear,lowered,small⟩ := facts
  obtain ⟨one,first⟩ := encode_done.mpr ⟨by decide,addressed⟩
  obtain ⟨two,second⟩ := encode_done.mpr ⟨by decide,clear⟩
  obtain ⟨brief,short⟩ := small one (by rw [first]; rfl) two (by rw [second]; rfl)
  refine ⟨named,one,two,_,_,first,second,brief,short,decode_restated first brief ⟨named,nofun⟩,
    decode_restated second short ⟨named,nofun⟩,rfl,lowered,?_⟩
  intro same
  have spelled := lowered.symm.trans (congrArg TransferData.sender same)
  exact absurd spelled (by decide)

end TokenTransfer.Payload
