import TokenTransfer.Abi

namespace TokenTransfer

namespace BigEndian

theorem write_zero (width : Nat) : write width 0 = List.replicate width 0 := by
  induction width with
  | zero => rfl
  | succ width ih =>
    rw [write,Nat.zero_div,ih,List.replicate_succ']
    rfl

theorem write_split (high low n : Nat) : write (high + low) n = write high (n / Nat.pow 256 low) ++ write low n := by
  induction low generalizing n with
  | zero => simp [write]
  | succ low ih =>
    have wider : Nat.pow 256 (low + 1) = 256 * Nat.pow 256 low := Nat.mul_comm _ _
    rw [← Nat.add_assoc,write,ih,write,Nat.div_div_eq_div_mul,wider,List.append_assoc]

end BigEndian

namespace Abi

theorem writeWord_length (n : Nat) : (writeWord n).length = 32 := BigEndian.write_length 32 n

theorem writeWord_short {n : Nat} (short : n < UInt32.size) :
    writeWord n = List.replicate 28 0 ++ BigEndian.write 4 n := by
  have nothing : n / Nat.pow 256 4 = 0 := Nat.div_eq_of_lt (by omega)
  rw [writeWord,show (32 : Nat) = 28 + 4 from rfl,BigEndian.write_split,nothing,BigEndian.write_zero]

theorem writeHead_length (place : Nat) (value : Value) : (writeHead place value).length = 32 := by
  cases value with
  | text | bytes => exact writeWord_length place
  | number n => exact writeWord_length n
  | account address => simp [writeHead,address.size]

theorem writeHeads_length (place : Nat) (values : List Value) :
    (writeHeads place values).length = 32 * values.length := by
  induction values generalizing place with
  | nil => rfl
  | cons value rest ih =>
    rw [writeHeads,List.length_append,writeHead_length,ih,List.length_cons]
    omega

section
variable {data word tail rest : Bytes} {place start n : Nat} {content : Bytes}

theorem wordAt_found (stands : data.drop place = word ++ tail) (full : word.length = 32) :
    wordAt data place = some word := by
  unfold wordAt
  rw [stands,List.take_left' full]
  exact if_pos full

theorem placeAt_found (stands : data.drop place = writeWord n ++ tail) (short : n < UInt32.size) :
    placeAt data place = some n := by
  have word := wordAt_found stands (writeWord_length n)
  have back : BigEndian.read (BigEndian.write 4 n) = n := BigEndian.big_endian_roundtrip 4 n short
  unfold placeAt
  rw [word,writeWord_short short]
  simp [back]

theorem blockAt_found (points : data.drop place = writeWord start ++ tail)
    (stands : data.drop start = writeBlock content ++ rest) (near : start < UInt32.size)
    (short : content.length < UInt32.size) : blockAt data place = some content := by
  rw [writeBlock,List.append_assoc,List.append_assoc] at stands
  have behind : data.drop (start + 32) = content ++ (List.replicate ((32 - content.length % 32) % 32) 0 ++ rest) := by
    rw [← List.drop_drop,stands]
    exact List.drop_left' (writeWord_length content.length)
  have taken : (data.drop (start + 32)).take content.length = content := by
    rw [behind]
    exact List.take_left
  unfold blockAt
  rw [placeAt_found points near,Option.bind_eq_bind,Option.bind_some,placeAt_found stands short]
  simp only [Option.bind_some,taken,if_true]

end

theorem ofBytes?_bytes (address : Address) : Address.ofBytes? address.bytes = some address := by
  unfold Address.ofBytes?
  rw [dif_pos address.size]

def Value.Fits : Value → Prop
  | .number n => n < Nat.pow 256 32
  | _ => True

theorem writeBlock_length (content : Bytes) : content.length ≤ (writeBlock content).length := by
  rw [writeBlock,List.length_append,List.length_append]
  omega

theorem readValue_found {data tail rest : Bytes} {place start : Nat} {value : Value} (fits : value.Fits)
    (points : data.drop place = writeHead start value ++ tail)
    (stands : data.drop start = block value ++ rest) (near : start + (block value).length < UInt32.size) :
    readValue data place value.kind = some value := by
  cases value with
  | text text =>
    have short := writeBlock_length (Utf8.write text)
    simp only [block] at near
    have found := blockAt_found points stands (by omega) (by omega)
    simp [readValue,Value.kind,found,Utf8.utf8_lenient]
  | bytes bytes =>
    have short := writeBlock_length bytes
    simp only [block] at near
    have found := blockAt_found points stands (by omega) (by omega)
    simp [readValue,Value.kind,found]
  | number n =>
    have found := wordAt_found points (writeWord_length n)
    have back : BigEndian.read (writeWord n) = n := BigEndian.big_endian_roundtrip 32 n fits
    simp only [readValue,Value.kind,found,writeHead,Option.map_some,back]
  | account address =>
    have found := wordAt_found points (writeHead_length start (.account address))
    have back : (List.replicate 12 0 ++ address.bytes).drop 12 = address.bytes :=
      List.drop_left' List.length_replicate
    simp only [readValue,Value.kind,found,writeHead,Option.bind_eq_bind,Option.bind_some,back,ofBytes?_bytes]
    rfl

-- The heads are read in order while their blocks are found further on: both
-- rests are what the writer still had to write.
theorem readValues_found {data tail rest : Bytes} {place start : Nat} {values : List Value}
    (fit : ∀ value ∈ values, value.Fits) (points : data.drop place = writeHeads start values ++ tail)
    (stands : data.drop start = values.flatMap block ++ rest)
    (near : start + (values.flatMap block).length < UInt32.size) :
    readValues data place (values.map Value.kind) = some values := by
  induction values generalizing place start with
  | nil => rfl
  | cons value others ih =>
    rw [List.flatMap_cons,List.length_append] at near
    rw [List.flatMap_cons,List.append_assoc] at stands
    rw [writeHeads,List.append_assoc] at points
    have first := readValue_found (fit value List.mem_cons_self) points stands (by omega)
    have onward : data.drop (place + 32) = writeHeads (start + (block value).length) others ++ tail := by
      rw [← List.drop_drop,points]
      exact List.drop_left' (writeHead_length start value)
    have beyond : data.drop (start + (block value).length) = others.flatMap block ++ rest := by
      rw [← List.drop_drop,stands]
      exact List.drop_left
    have others := ih (fun other present => fit other (List.mem_cons_of_mem _ present)) onward beyond (by omega)
    simp [readValues,first,others]

theorem tuple_roundtrip {values : List Value} (fit : ∀ value ∈ values, value.Fits)
    (short : (writeTuple values).length < UInt32.size) :
    readTuple (values.map Value.kind) (writeTuple values) = .ok values := by
  have written : writeTuple values = writeWord 32 ++ (writeHeads (32*values.length) values ++ values.flatMap block) := by
    rw [writeTuple,List.append_assoc]
  have length := congrArg List.length written
  rw [List.length_append,List.length_append,writeWord_length,writeHeads_length] at length
  have body : (writeTuple values).drop 32 = writeHeads (32*values.length) values ++ values.flatMap block := by
    rw [written]
    exact List.drop_left' (writeWord_length 32)
  have place : placeAt (writeTuple values) 0 = some 32 :=
    placeAt_found (by rw [List.drop_zero,written]) (by decide)
  have blocks : ((writeTuple values).drop 32).drop (32*values.length) = values.flatMap block ++ [] := by
    rw [body,List.append_nil]
    exact List.drop_left' (writeHeads_length (32*values.length) values)
  have heads : ((writeTuple values).drop 32).drop 0 = writeHeads (32*values.length) values ++ values.flatMap block := body
  have found := readValues_found fit heads blocks (by omega)
  have present : (writeTuple values).isEmpty = false := by
    cases empty : writeTuple values with
    | nil => rw [empty] at length; simp at length; omega
    | cons => rfl
  unfold readTuple
  rw [present,place]
  simp [found]

end Abi
end TokenTransfer
