import Uplink.Identity.ClientId
import Uplink.Proofs.Text.Ascii
import Mathlib.Data.List.DropRight

/-!
# Line noise behind an identity

A modem answers with more than its identity: a line ends behind it, and often a second line
with a result code follows. The cut to `IdentityAnswer.kept` bytes comes first, and only
then white space at the end goes, so what becomes of the noise depends on where the cut
falls. `ofIdentity_noisy` says which noise does no harm: what is cut off, and white space.
Any other noise reaches into the identifier behind its line end, and the answer is refused.
-/

namespace Uplink

namespace Text

theorem toList_trimEnd (text : String) :
    (trimEnd text).toList = text.toList.rdropWhile isBlank := by
  rw [trimEnd, String.toList_ofList, List.rdropWhile]

/-- White space at the end goes as far back as a text without any. -/
theorem toList_trimEnd_append {first : String} (dense : ∀ c ∈ first.toList, isBlank c = false)
    (second : String) :
    (trimEnd (first ++ second)).toList = first.toList ++ (trimEnd second).toList := by
  have kept : first.toList.reverse.dropWhile isBlank = first.toList.reverse := by
    refine List.dropWhile_eq_self_iff.mpr fun begun => ?_
    rw [dense _ (List.mem_reverse.mp (List.getElem_mem begun))]
    exact nofun
  rw [toList_trimEnd, toList_trimEnd, String.toList_append, List.rdropWhile, List.rdropWhile,
    List.reverse_append, List.dropWhile_append, kept]
  split
  · next gone => simp [List.isEmpty_iff.mp gone]
  · simp

end Text

/-- The answer that tells a text, with its full length. -/
def IdentityAnswer.telling (text : String) : IdentityAnswer :=
  .written (Utf8.encode text) text.utf8ByteSize

namespace ClientId

theorem isPlain_iff {c : Char} :
    isPlain c = true ↔ c ≠ '/' ∧ c ≠ '+' ∧ c ≠ '#' ∧ Text.isBlank c = false := by
  simp [isPlain, and_assoc]

/-- An identifier is a text that is not empty, consists of plain characters and is short
enough. -/
theorem custom_eq_ok_iff {text : String} {id : ClientId} :
    custom text = .ok id ↔ id.text = text := by
  constructor
  · intro made
    simp only [custom] at made
    split at made
    · split at made
      · split at made
        · cases made
          rfl
        · cases made
      · cases made
    · cases made
  · rintro rfl
    simp only [custom, id.nonempty, id.plain, id.fits, dif_pos]

/-- A text with a character that cannot stand in an identifier is refused for its form,
however long it is. -/
theorem custom_of_unplain {text : String} {c : Char} (isIn : c ∈ text.toList)
    (unplain : isPlain c = false) : custom text = .error .invalidClientId := by
  have refused : ¬text.toList.all isPlain = true := fun all => by
    rw [List.all_eq_true.mp all c isIn] at unplain
    cases unplain
  simp only [custom, dif_neg refused, dite_eq_ite, ite_self]

/-- A device tells its identity and sends noise behind it: nothing, or ASCII text that begins
with the end of a line. The buffer holds both. -/
structure Noisy (identity noise : String) : Prop where
  named : identity ≠ ""
  plain : ∀ c ∈ identity.toList, isPlain c = true
  short : identity.utf8ByteSize ≤ IdentityAnswer.kept
  ascii : ∀ c ∈ noise.toList, c.toNat < 128
  begins : ∀ c, noise.toList.head? = some c → c = '\r' ∨ c = '\n'
  fits : (identity ++ noise).utf8ByteSize ≤ IdentityAnswer.bufferSize

/-- The noise that is left behind an identity by the cut. -/
def remains (identity noise : String) : String :=
  String.ofList (noise.toList.take (IdentityAnswer.kept - identity.utf8ByteSize))

section

variable {identity noise : String}

/-- What is read of a noisy identity: the identity and what the cut leaves of the noise,
without white space at the end. -/
theorem ofIdentity_telling (noisy : Noisy identity noise) :
    ofIdentity (.telling (identity ++ noise)) =
      custom (Text.trimEnd (identity ++ remains identity noise)) := by
  have inside : (Utf8.encode (identity ++ noise)).length ≤ IdentityAnswer.bufferSize := noisy.fits
  have whole : (IdentityAnswer.buffer (Utf8.encode (identity ++ noise))).take
      (min (identity ++ noise).utf8ByteSize IdentityAnswer.kept) =
        (Utf8.encode (identity ++ noise)).take IdentityAnswer.kept := by
    rw [IdentityAnswer.buffer, List.take_of_length_le inside, ← Utf8.length_encode,
      List.take_append_of_le_length (Nat.min_le_left _ _), Nat.min_comm, ← List.take_take,
      List.take_length]
  rw [IdentityAnswer.telling, ofIdentity, whole, Utf8.take_encode_append noisy.ascii noisy.short,
    Utf8.decode?_encode]
  rfl

theorem Noisy.dense (noisy : Noisy identity noise) :
    ∀ c ∈ identity.toList, Text.isBlank c = false :=
  fun c isIn => (isPlain_iff.mp (noisy.plain c isIn)).2.2.2

/-- White space does not show behind an identity. -/
theorem trimEnd_of_blank (noisy : Noisy identity noise) {blank : String}
    (isBlank : ∀ c ∈ blank.toList, Text.isBlank c = true) :
    Text.trimEnd (identity ++ blank) = identity := by
  have gone : (Text.trimEnd blank).toList = [] := by
    rw [Text.toList_trimEnd, List.rdropWhile_eq_nil_iff]
    exact isBlank
  rw [← String.toList_inj, Text.toList_trimEnd_append noisy.dense, gone, List.append_nil]

/-- Noise that is not all white space keeps its line end inside the text. -/
theorem lineEnd_mem_trimEnd (noisy : Noisy identity noise)
    (loud : ∃ c ∈ (remains identity noise).toList, Text.isBlank c = false) :
    ∃ c ∈ (Text.trimEnd (identity ++ remains identity noise)).toList, isPlain c = false := by
  rw [Text.toList_trimEnd_append noisy.dense, Text.toList_trimEnd]
  obtain ⟨mark, isMark, dark⟩ := loud
  have left : (remains identity noise).toList.rdropWhile Text.isBlank ≠ [] := fun gone => by
    rw [List.rdropWhile_eq_nil_iff.mp gone mark isMark] at dark
    cases dark
  obtain ⟨first, rest, isLeft⟩ := List.exists_cons_of_ne_nil left
  have begun : noise.toList.head? = some first := by
    have front : (remains identity noise).toList <+: noise.toList := by
      rw [remains, String.toList_ofList]
      exact List.take_prefix _ _
    obtain ⟨behind, split⟩ := (List.rdropWhile_prefix Text.isBlank _).trans front
    rw [← split, isLeft]
    rfl
  refine ⟨first, ?_, ?_⟩
  · rw [isLeft]
    exact List.mem_append_right _ List.mem_cons_self
  · rcases noisy.begins first begun with rfl | rfl <;> decide

/-- A noisy identity is read as it is when the cut leaves white space of the noise or nothing,
and refused when it leaves anything else. -/
theorem ofIdentity_noisy (noisy : Noisy identity noise) :
    ((∀ c ∈ (remains identity noise).toList, Text.isBlank c = true) →
      ∃ id, ofIdentity (.telling (identity ++ noise)) = .ok id ∧ id.text = identity) ∧
    ((∃ c ∈ (remains identity noise).toList, Text.isBlank c = false) →
      ofIdentity (.telling (identity ++ noise)) = .error .invalidClientId) := by
  rw [ofIdentity_telling noisy]
  constructor
  · intro blank
    have within : identity.utf8ByteSize ≤ Limits.clientId := noisy.short.trans (by decide)
    have nonempty : identity.isEmpty = false := by simpa using noisy.named
    have plain : identity.toList.all isPlain = true := List.all_eq_true.mpr noisy.plain
    rw [trimEnd_of_blank noisy blank]
    exact ⟨⟨identity, nonempty, plain, within⟩, custom_eq_ok_iff.mpr rfl, rfl⟩
  · intro loud
    obtain ⟨c, isIn, unplain⟩ := lineEnd_mem_trimEnd noisy loud
    exact custom_of_unplain isIn unplain

end

/-- A modem tells its result behind a serial number. -/
theorem noisy_resultCode {serial : String} (named : serial ≠ "")
    (plain : serial.toList.all isPlain = true) (short : serial.utf8ByteSize ≤ 15) :
    Noisy serial "\r\nOK\r\n" where
  named := named
  plain := List.all_eq_true.mp plain
  short := short
  ascii := by simp
  begins := by simp
  fits := by
    have result : "\r\nOK\r\n".utf8ByteSize = 6 := rfl
    rw [String.utf8ByteSize_append, result, IdentityAnswer.bufferSize]
    omega

/-- The answer of a modem with a serial number of full length: all of the noise is cut off. -/
theorem ofIdentity_noisy_serial :
    Noisy "352656100123456" "\r\nOK\r\n" ∧
      ∃ id, ofIdentity (.telling "352656100123456\r\nOK\r\n") = .ok id ∧
        id.text = "352656100123456" := by
  have noisy : Noisy "352656100123456" "\r\nOK\r\n" :=
    noisy_resultCode (by decide) (by decide +kernel) (by decide)
  exact ⟨noisy, (ofIdentity_noisy noisy).1 (List.all_eq_true.mp (by decide +kernel))⟩

/-- The same answer with a shorter number is refused: its result code is not cut off. -/
theorem ofIdentity_shortSerial :
    Noisy "12345" "\r\nOK\r\n" ∧
      ofIdentity (.telling ("12345" ++ "\r\nOK\r\n")) = .error .invalidClientId :=
  ⟨noisy_resultCode (by decide) (by decide +kernel) (by decide), by decide +kernel⟩

end ClientId

end Uplink
