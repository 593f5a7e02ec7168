import TokenTransfer.Proofs.TraceReading

namespace TokenTransfer

namespace Hex

theorem value_upper (c : Char) : value? c.toUpper = value? c := by
  by_cases low : c.toNat < 128
  · have checked : ∀ k : Fin 128, value? (Char.ofNat k.val).toUpper = value? (Char.ofNat k.val) := by decide
    have here := checked ⟨c.toNat,low⟩
    rwa [Char.ofNat_toNat] at here
  · have same : c.toUpper = c := by
      unfold Char.toUpper
      split
      · rename_i letter
        have last : c.val.toNat ≤ 122 := by simpa [UInt32.le_iff_toNat_le] using letter.2
        exact absurd (show c.val.toNat < 128 by omega) low
      · rfl
    rw [same]

theorem read_upper (digits : List Char) : read (digits.map Char.toUpper) = read digits := by
  induction digits using read.induct with
  | case1 => rfl
  | case2 c => rfl
  | case3 high low rest ih => simp only [List.map_cons,read,value_upper,ih]

theorem upper_roundtrip (bytes : Bytes) : read ((write bytes).map Char.toUpper) = some bytes :=
  (read_upper _).trans (hex_roundtrip bytes)

theorem upper_plain (bytes : Bytes) : '/' ∉ (write bytes).map Char.toUpper := by
  intro present
  obtain ⟨c,written,upper⟩ := List.mem_map.mp present
  obtain ⟨b,_,digits⟩ := List.mem_flatMap.mp written
  have worthless : value? c = none := by
    rw [← value_upper,upper]
    rfl
  have bound := b.toNat_lt
  simp only [writeByte,List.mem_cons,List.not_mem_nil,or_false] at digits
  rcases digits with rfl | rfl
  · rw [digit_value _ (by omega)] at worthless
    cases worthless
  · rw [digit_value _ (by omega)] at worthless
    cases worthless

end Hex

namespace Trace
variable {denom other : String} {one two : Bytes}

def nameOf (hash : Bytes) : String := "ibc/" ++ String.ofList ((Hex.write hash).map Char.toUpper)

theorem nameOf_inj : nameOf one = nameOf two ↔ one = two := by
  constructor
  · intro same
    have digits : (Hex.write one).map Char.toUpper = (Hex.write two).map Char.toUpper := by
      simpa [nameOf] using congrArg String.toList same
    have back := congrArg Hex.read digits
    rw [Hex.upper_roundtrip,Hex.upper_roundtrip] at back
    exact Option.some.inj back
  · intro same
    rw [same]

theorem native_exact : (read denom).isNative = true ↔ denom.toList.count '/' ≤ 1 := by
  unfold isNative
  rw [List.isEmpty_iff_length_eq_zero,read_hops_length]
  omega

theorem nameOf_native (hash : Bytes) : (read (nameOf hash)).isNative = true := by
  rw [native_exact]
  have plain := List.count_eq_zero_of_not_mem (Hex.upper_plain hash)
  simp [nameOf,plain]

theorem native_name (native : (read denom).isNative = true) : (read denom).hashedName = denom := by
  have bare := read_base (native_exact.mp native)
  unfold hashedName
  rw [if_pos native,bare]

theorem traced_name (traced : (read denom).isNative = false) :
    (read denom).hashedName = nameOf (Sha256.hash (Utf8.write denom)) := by
  unfold hashedName
  rw [if_neg (by simp [traced]),text_read]
  rfl

theorem name_spelled (native : (read other).isNative = true) :
    (read denom).hashedName = (read other).hashedName ↔ other = (read denom).hashedName := by
  rw [native_name native]
  exact eq_comm

theorem traced_apart (one : (read denom).isNative = false) (two : (read other).isNative = false)
    (resistant : Sha256.hash (Utf8.write denom) ≠ Sha256.hash (Utf8.write other)) :
    (read denom).hashedName ≠ (read other).hashedName := by
  rw [traced_name one,traced_name two,Ne,nameOf_inj]
  exact resistant

theorem traced_foreign (one : (read denom).isNative = false) (two : (read other).isNative = false) :
    other ≠ (read denom).hashedName := by
  intro spelled
  rw [spelled,traced_name one,nameOf_native] at two
  cases two

-- As long as hashes do not collide, names tell denominations apart, with one exception:
-- the hashed name of a traced denomination is that of a native one spelled like it.
theorem names_identify (denom other : String) (different : denom ≠ other)
    (resistant : (read denom).isNative = false → (read other).isNative = false →
      Sha256.hash (Utf8.write denom) ≠ Sha256.hash (Utf8.write other)) :
    ((read denom).isNative = (read other).isNative → (read denom).hashedName ≠ (read other).hashedName) ∧
      ((read denom).hashedName = (read other).hashedName ↔
        ((read denom).isNative = false ∧ other = (read denom).hashedName) ∨
        ((read other).isNative = false ∧ denom = (read other).hashedName)) := by
  cases one : (read denom).isNative with
  | true =>
    cases two : (read other).isNative with
    | true =>
      have apart : (read denom).hashedName ≠ (read other).hashedName := by
        rwa [native_name one,native_name two]
      exact ⟨fun _ => apart,by simp [apart]⟩
    | false =>
      have spelled : (read denom).hashedName = (read other).hashedName ↔ denom = (read other).hashedName :=
        eq_comm.trans (name_spelled one)
      exact ⟨nofun,by simp [spelled]⟩
  | false =>
    cases two : (read other).isNative with
    | true => exact ⟨nofun,by simp [name_spelled two]⟩
    | false =>
      have apart := traced_apart one two (resistant one two)
      exact ⟨fun _ => apart,by simp [apart,traced_foreign one two,traced_foreign two one]⟩

theorem names_identify_channels :
    let denom := "transfer/channel-0/USDT"
    let other := "transfer/channel-1/USDT"
    denom ≠ other ∧ (read denom).isNative = false ∧ (read other).isNative = false ∧
      Sha256.hash (Utf8.write denom) ≠ Sha256.hash (Utf8.write other) ∧
      (read denom).hashedName ≠ (read other).hashedName := by
  intro denom other
  have different : denom ≠ other := by decide
  have one : (read denom).isNative = false := by decide
  have two : (read other).isNative = false := by decide
  have hashes : Sha256.hash (Utf8.write denom) ≠ Sha256.hash (Utf8.write other) := by decide +kernel
  exact ⟨different,one,two,hashes,(names_identify denom other different fun _ _ => hashes).1 (one.trans two.symm)⟩

-- A token may be issued under what is the hashed name of another one.
theorem name_taken :
    let denom := "transfer/channel-0/USDT"
    let other := "ibc/36E63B2AB1BD3FFD0A02678BAB37A14B8F14D9E6DD1142BE29FF48EBC544C728"
    denom ≠ other ∧ Sha256.hash (Utf8.write denom) ≠ Sha256.hash (Utf8.write other) ∧
      (read denom).hashedName = (read other).hashedName := by
  intro denom other
  have hashes : Sha256.hash (Utf8.write denom) ≠ Sha256.hash (Utf8.write other) := by decide +kernel
  have named : (read denom).hashedName = other := by decide +kernel
  have native : (read other).isNative = true := by decide
  exact ⟨by decide,hashes,(name_spelled native).mpr named.symm⟩

end Trace
end TokenTransfer
