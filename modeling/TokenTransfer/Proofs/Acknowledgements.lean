import TokenTransfer.Acknowledgement
import TokenTransfer.Proofs.JsonCodec

namespace TokenTransfer.Acknowledgement
variable {α : Type} {bytes : Bytes}

theorem record_read (name text : String) :
    ofJson? (Json.write (.ofFields [(name,.ofText text)])) =
      if name = "result" then some (.success (Json.write (.ofFields [(name,.ofText text)])))
      else if name = "error" then some (.failure text) else none := by
  have parsed := Json.record_roundtrip [(name,text)]
  simp only [Json.textMembers,List.map_cons,List.map_nil] at parsed
  unfold ofJson?
  rw [parsed]
  simp only [Json.Value.ofFields,Json.Value.ofText,List.map_cons,List.map_nil,Json.text_roundtrip,
    Option.bind_eq_bind,Option.bind_some]

theorem failure_roundtrip (reason : String) : read (failure reason).write = .failure reason := by
  unfold read write
  rw [record_read,if_neg (by decide),if_pos rfl]

theorem standard_roundtrip : read standard.write = standard := by
  unfold read standard write
  rw [record_read,if_pos rfl]

theorem read_success {proof : Bytes} (success : read bytes = .success proof) : proof = bytes := by
  unfold read at success
  split at success
  · rename_i acknowledgement parsed
    subst success
    unfold ofJson? at parsed
    obtain ⟨value,_,named⟩ := Option.bind_eq_some_iff.mp parsed
    split at named
    · obtain ⟨name,_,told⟩ := Option.bind_eq_some_iff.mp named
      obtain ⟨text,_,said⟩ := Option.bind_eq_some_iff.mp told
      split at said
      · cases said
        rfl
      · split at said <;> cases said
    · cases named
  · split at success
    · cases success
      rfl
    · cases success

theorem read_stable (bytes : Bytes) : read (read bytes).write = read bytes := by
  cases found : read bytes with
  | success proof =>
    obtain rfl := read_success found
    exact found
  | failure reason => exact failure_roundtrip reason

theorem outcome_roundtrip (outcome : Except TransferError α) : read (ofOutcome outcome).write = ofOutcome outcome := by
  cases outcome with
  | ok value => exact standard_roundtrip
  | error error => exact failure_roundtrip _

theorem outcome_success (outcome : Except TransferError α) :
    (read (ofOutcome outcome).write).isSuccess = outcome.isOk := by
  rw [outcome_roundtrip]
  cases outcome <;> rfl

end TokenTransfer.Acknowledgement
