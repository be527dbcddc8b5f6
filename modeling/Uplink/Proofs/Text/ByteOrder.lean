import Uplink.Text.Utf8
import Mathlib.Data.List.Lex
import Mathlib.Data.String.Basic

/-!
# Text order is byte order

Texts are compared character by character. The encodings are compared octet by octet,
and the result is the same: a larger character has the larger encoding already at the
first octet in which the two differ, so neither encoding is the beginning of the other.
-/

namespace Uplink.Utf8

/-- The octets of a text, character by character. -/
theorem encode_eq_flatMap (text : String) :
    encode text = text.toList.flatMap String.utf8EncodeChar := by
  conv_lhs => rw [← String.ofList_toList (s := text)]
  rw [encode, String.toByteArray_ofList]
  exact List.toList_data_toByteArray

/-- The smaller character has the smaller encoding, whatever follows the two. -/
theorem encodeChar_append_lt {smaller larger : Char} (less : smaller < larger)
    (rest others : Bytes) :
    String.utf8EncodeChar smaller ++ rest < String.utf8EncodeChar larger ++ others := by
  have bounded : larger.val.toNat < 0x110000 := by
    rcases larger.valid with low | ⟨-, high⟩ <;> omega
  have codes : smaller.val.toNat < larger.val.toNat := less
  -- Encodings of one length are compared digit by digit in base 64; the first octet of a
  -- longer encoding is larger than that of a shorter one.
  fun_cases String.utf8EncodeChar smaller <;> fun_cases String.utf8EncodeChar larger <;>
    simp (disch := omega) only [List.cons_append, List.nil_append, List.cons_lt_cons_iff,
      UInt8.lt_iff_toNat_lt, ← UInt8.toNat_inj, UInt8.toNat_ofNat', Nat.mod_eq_of_lt] <;>
    omega

theorem flatMap_encodeChar_lt {smaller larger : List Char} (less : smaller < larger) :
    smaller.flatMap String.utf8EncodeChar < larger.flatMap String.utf8EncodeChar := by
  induction smaller generalizing larger with
  | nil =>
    cases larger with
    | nil => exact absurd less (lt_irrefl _)
    | cons character rest =>
      obtain ⟨octet, octets, encoded⟩ :=
        List.exists_cons_of_ne_nil (String.utf8EncodeChar_ne_nil (c := character))
      rw [List.flatMap_cons, encoded]
      exact List.nil_lt_cons octet _
  | cons character rest ih =>
    cases larger with
    | nil => exact absurd less (List.not_lt_nil _)
    | cons other others =>
      rw [List.flatMap_cons, List.flatMap_cons]
      rcases List.cons_lt_cons_iff.mp less with earlier | ⟨rfl, later⟩
      · exact encodeChar_append_lt earlier _ _
      · exact List.append_left_lt (ih later)

/-- The smaller text has the smaller encoding. -/
theorem encode_lt_of_lt {smaller larger : String} (less : smaller < larger) :
    encode smaller < encode larger := by
  rw [encode_eq_flatMap, encode_eq_flatMap]
  exact flatMap_encodeChar_lt (String.lt_iff_toList_lt.mp less)

/-- Texts are ordered as their octets are. -/
theorem encode_lt_encode {left right : String} : encode left < encode right ↔ left < right := by
  constructor
  · intro less
    rcases lt_trichotomy left right with smaller | rfl | larger
    · exact smaller
    · exact absurd less (List.lt_irrefl _)
    · exact absurd less (List.lt_asymm (encode_lt_of_lt larger))
  · exact encode_lt_of_lt

/-- The same for the weak order. -/
theorem encode_le_encode {left right : String} : encode left ≤ encode right ↔ left ≤ right := by
  rw [← not_lt, ← encode_lt_encode]
  exact Iff.rfl

end Uplink.Utf8
