import Uplink.Proofs.Text.ByteOrder

/-!
# ASCII text

An ASCII character is one octet, so the octets of an ASCII text are its characters, one by
one, and a cut between octets is a cut between characters.
-/

namespace Uplink.Utf8

variable {first second : String} {count : Nat}

@[simp] theorem encode_append (first second : String) :
    encode (first ++ second) = encode first ++ encode second := by
  rw [encode_eq_flatMap, String.toList_append, List.flatMap_append, ← encode_eq_flatMap,
    ← encode_eq_flatMap]

/-- The octet of a character that has only one. -/
theorem encodeChar_of_ascii {c : Char} (ascii : c.toNat < 128) :
    String.utf8EncodeChar c = [c.toNat.toUInt8] := by
  have small : c.val.toNat ≤ 0x7f := Nat.le_of_lt_succ ascii
  rw [String.utf8EncodeChar, if_pos small]
  rfl

theorem encode_of_ascii {text : String} (ascii : ∀ c ∈ text.toList, c.toNat < 128) :
    encode text = text.toList.map (·.toNat.toUInt8) := by
  rw [encode_eq_flatMap, ← List.flatMap_singleton' (text.toList.map _), List.flatMap_map]
  exact List.flatMap_congr fun c isIn => encodeChar_of_ascii (ascii c isIn)

theorem utf8ByteSize_of_ascii {text : String} (ascii : ∀ c ∈ text.toList, c.toNat < 128) :
    text.utf8ByteSize = text.toList.length := by
  rw [← length_encode, encode_of_ascii ascii, List.length_map]

/-- A cut behind `first` takes as many characters of an ASCII text as it takes octets. -/
theorem take_encode_append (ascii : ∀ c ∈ second.toList, c.toNat < 128)
    (behind : first.utf8ByteSize ≤ count) :
    (encode (first ++ second)).take count =
      encode (first ++ String.ofList (second.toList.take (count - first.utf8ByteSize))) := by
  have asciiPart : ∀ c ∈ (String.ofList (second.toList.take (count - first.utf8ByteSize))).toList,
      c.toNat < 128 := by
    intro c isIn
    rw [String.toList_ofList] at isIn
    exact ascii c (List.mem_of_mem_take isIn)
  rw [encode_append, List.take_append, List.take_of_length_le (by simpa using behind),
    length_encode, encode_append, encode_of_ascii ascii, encode_of_ascii asciiPart,
    String.toList_ofList, List.map_take]

end Uplink.Utf8
