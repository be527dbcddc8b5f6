import Mathlib
import Uplink.Decimal.Tenths
import Uplink.Proofs.Text.Ascii

/-!
# Rounding to tenths

The standard library takes the bits of a double apart, too, and `Binary64.number?` is the
number that it finds in them. The text of the double stands for the number of tenths that is
nearest to it, the even one of two, and spells it with one digit after the point, so that a
reader is off by half a tenth at most and never mistakes the order of two doubles.
-/

namespace Uplink

open Float.Model (UnpackedFloat)
open Float.Model.UnpackedFloat (unpack unpackSign unpackSign_def unpackExponent unpackExponent_def
  unpackMantissa unpackMantissa_def Sign)

/-- A size with a sign. -/
def signed (negative : Bool) (size : ℚ) : ℚ := if negative then -size else size

theorem abs_signed (negative : Bool) (size : ℚ) : |signed negative size| = |size| := by
  cases negative
  · rfl
  · exact abs_neg size

/-! ## The number of a double -/

namespace Binary64

/-- Whether a sign is set. -/
def isNegative : Sign → Bool
  | .negative => true
  | .positive => false

variable (bits : UInt64)

theorem toNat_unpackMantissa :
    (@unpackMantissa .binary64 bits.toBitVec).toNat = (bits &&& 0xFFFFFFFFFFFFF).toNat := by
  have masked := Nat.and_two_pow_sub_one_eq_mod bits.toNat 52
  simp only [unpackMantissa_def, BitVec.extractLsb'_toNat, UInt64.toNat_and]
  simpa using masked.symm

theorem toNat_unpackExponent :
    (@unpackExponent .binary64 bits.toBitVec).toNat = (bits >>> 52 &&& 0x7FF).toNat := by
  have masked := Nat.and_two_pow_sub_one_eq_mod (bits.toNat / 2 ^ 52) 11
  simp only [unpackExponent_def, BitVec.extractLsb'_toNat, UInt64.toNat_and,
    UInt64.toNat_shiftRight]
  simpa [Nat.shiftRight_eq_div_pow] using masked.symm

theorem isNegative_unpackSign :
    isNegative (Sign.ofBitVec (@unpackSign .binary64 bits.toBitVec)) = (bits >>> 63 == 1) := by
  have top : (@unpackSign .binary64 bits.toBitVec).toNat = (bits >>> 63).toNat := by
    have single : bits.toNat / 2 ^ 63 < 2 := by
      have bound := bits.toNat_lt
      omega
    simp only [unpackSign_def, BitVec.extractLsb'_toNat, UInt64.toNat_shiftRight]
    simpa [Nat.shiftRight_eq_div_pow] using single
  simp only [beq_eq_decide, ← UInt64.toNat_inj, ← top]
  generalize @unpackSign .binary64 bits.toBitVec = sign
  revert sign
  decide

/-- Two readings of the same bits. -/
inductive Alike : UnpackedFloat → Binary64 → Prop where
  | nan : Alike .notANumber nan
  | infinite (sign : Sign) : Alike (.infinity sign) (infinite (isNegative sign))
  | zero (sign : Sign) : Alike (.zero sign) (finite (isNegative sign) 0 0)
  | finite (sign : Sign) (mantissa exponent : Nat) (pos : 0 < mantissa) :
      Alike (.finite sign mantissa (exponent - 1074) pos)
        (finite (isNegative sign) mantissa exponent)

/-- Bits are read as the standard library reads them. -/
theorem alike_unpack : Alike (unpack .binary64 bits.toBitVec) (ofBits bits) := by
  have isTop : (@unpackExponent .binary64 bits.toBitVec).toNat = 0x7FF ↔
      @unpackExponent .binary64 bits.toBitVec = -1#11 := BitVec.toNat_inj (y := -1#11)
  have isLow : (@unpackExponent .binary64 bits.toBitVec).toNat = 0 ↔
      @unpackExponent .binary64 bits.toBitVec = 0#11 := BitVec.toNat_inj (y := 0#11)
  have isWhole : (@unpackMantissa .binary64 bits.toBitVec).toNat = 0 ↔
      @unpackMantissa .binary64 bits.toBitVec = 0#52 := BitVec.toNat_inj (y := 0#52)
  have implicit : (1#1 ++ @unpackMantissa .binary64 bits.toBitVec).toNat =
      Nat.pow 2 52 + (@unpackMantissa .binary64 bits.toBitVec).toNat := by
    rw [BitVec.toNat_append, ← Nat.shiftLeft_add_eq_or_of_lt (BitVec.isLt _)]
    rfl
  have bias : ((Float.Model.Format.binary64.exponentBias : ℕ) : ℤ) = 1023 := rfl
  rw [ofBits, ← isNegative_unpackSign, ← toNat_unpackExponent, ← toNat_unpackMantissa, unpack]
  simp only [isTop, isLow, isWhole]
  split
  · split
    · exact .infinite _
    · exact .nan
  · split
    · next low =>
      split
      · next whole =>
        rw [whole]
        exact .zero _
      · have exponent : ((@unpackExponent .binary64 bits.toBitVec).toNat : ℤ) -
            ((Float.Model.Format.binary64.exponentBias : ℕ) + (52 : ℕ)) + 1 = (0 : ℕ) - 1074 := by
          rw [isLow.mpr low, bias]
          rfl
        simp only [exponent]
        exact .finite _ _ 0 _
    · next notLow =>
      have exponent : ((@unpackExponent .binary64 bits.toBitVec).toNat : ℤ) -
          ((Float.Model.Format.binary64.exponentBias : ℕ) + (52 : ℕ)) =
            ((@unpackExponent .binary64 bits.toBitVec).toNat - 1 : ℕ) - 1074 := by
        have counted : (@unpackExponent .binary64 bits.toBitVec).toNat ≠ 0 := mt isLow.mp notLow
        rw [bias]
        omega
      simp only [implicit, exponent]
      exact .finite _ _ _ _

/-- The sign of a finite double, and the number that it stands for. -/
def number? (value : Float) : Option (Bool × ℚ) :=
  match value.toModel.unpack with
  | .zero sign => some (isNegative sign, 0)
  | .finite sign mantissa exponent _ =>
    some (isNegative sign, signed (isNegative sign) (mantissa * 2 ^ exponent))
  | .infinity _ | .notANumber => none

theorem isSome_number? (value : Float) : (number? value).isSome = value.isFinite := by
  rw [number?, Float.isFinite, Float.Model.isFinite]
  cases value.toModel.unpack <;> rfl

theorem exists_of_number? {value : Float} {negative : Bool} {number : ℚ}
    (finite : number? value = some (negative, number)) :
    ∃ mantissa exponent, ofBits value.toBits = .finite negative mantissa exponent ∧
      number = signed negative (mantissa * 2 ^ exponent / 2 ^ 1074) := by
  have alike : Alike value.toModel.unpack (ofBits value.toBits) := alike_unpack value.toBits
  rw [number?] at finite
  generalize value.toModel.unpack = unpacked at *
  generalize ofBits value.toBits = read at *
  cases alike with
  | nan | infinite => cases finite
  | zero sign =>
    cases finite
    exact ⟨0, 0, rfl, by cases sign <;> simp [signed, isNegative]⟩
  | finite sign mantissa exponent pos =>
    cases finite
    refine ⟨mantissa, exponent, rfl, ?_⟩
    rw [zpow_sub₀ two_ne_zero, zpow_natCast, ← mul_div_assoc]
    rfl

end Binary64

/-! ## The nearest number of tenths -/

namespace Tenths

/-- A number of tenths is as near to a number as any other, and even where another one is as
near. -/
structure Nearest (number : ℚ) (tenths : ℤ) : Prop where
  near : |10 * number - tenths| ≤ 1 / 2
  even : |10 * number - tenths| = 1 / 2 → Even tenths

theorem Nearest.neg {number : ℚ} {tenths : ℤ} (nearest : Nearest number tenths) :
    Nearest (-number) (-tenths) := by
  have same : |10 * -number - ((-tenths : ℤ) : ℚ)| = |10 * number - tenths| := by
    rw [← abs_neg]
    congr 1
    push_cast
    ring
  constructor
  · rw [same]
    exact nearest.near
  · rw [same, even_neg]
    exact nearest.even

/-- A larger number has no smaller number of tenths nearest to it. -/
theorem Nearest.mono {number other : ℚ} {tenths otherTenths : ℤ} (nearest : Nearest number tenths)
    (otherNearest : Nearest other otherTenths) (le : number ≤ other) : tenths ≤ otherTenths := by
  by_contra! less
  have above := abs_le.mp nearest.near
  have below := abs_le.mp otherNearest.near
  have apart : (otherTenths : ℚ) + 1 ≤ tenths := by exact_mod_cast less
  -- Both numbers are the middle between the two neighbours, so both of these are even.
  have tie : |10 * number - tenths| = 1 / 2 := by
    rw [abs_of_nonpos] <;> linarith
  have otherTie : |10 * other - otherTenths| = 1 / 2 := by
    rw [abs_of_nonneg] <;> linarith
  have next : tenths = otherTenths + 1 := by
    have nextRat : (tenths : ℚ) = otherTenths + 1 := by linarith
    exact_mod_cast nextRat
  have even := nearest.even tie
  have otherEven := otherNearest.even otherTie
  rw [next, Int.even_add_one] at even
  exact even otherEven

/-- What is left when dividing rounds is at most half of the divisor, and exactly half of it
only if the result is even. -/
theorem roundDiv_rest (numerator : ℕ) {denominator : ℕ} (pos : 0 < denominator) :
    ∃ rest : ℤ, (numerator : ℤ) = denominator * roundDiv numerator denominator + rest ∧
      |2 * rest| ≤ denominator ∧
      (|2 * rest| = denominator → Even (roundDiv numerator denominator)) := by
  have split : (numerator : ℤ) = denominator * (numerator / denominator : ℕ) +
      (numerator % denominator : ℕ) := by exact_mod_cast (Nat.div_add_mod _ _).symm
  have below := Nat.mod_lt numerator pos
  rw [roundDiv]
  generalize numerator / denominator = quotient at *
  generalize numerator % denominator = rest at *
  have splitUp : (numerator : ℤ) = denominator * (quotient + 1 : ℕ) + (rest - denominator) := by
    rw [split]
    push_cast
    ring
  rcases lt_trichotomy (2 * rest) denominator with down | tie | up
  · rw [if_pos down]
    refine ⟨rest, split, abs_le.mpr ⟨by omega, by omega⟩, fun half => ?_⟩
    rcases abs_eq (by omega) |>.mp half with half | half <;> omega
  · rw [if_neg tie.not_lt, if_neg tie.not_gt]
    rcases Nat.mod_two_eq_zero_or_one quotient with even | odd
    · rw [even]
      exact ⟨rest, split, abs_le.mpr ⟨by omega, by omega⟩, fun _ => Nat.even_iff.mpr even⟩
    · rw [odd]
      refine ⟨rest - denominator, splitUp, abs_le.mpr ⟨by omega, by omega⟩, fun _ => ?_⟩
      exact Nat.even_iff.mpr (by omega)
  · rw [if_neg up.not_gt, if_pos up]
    refine ⟨rest - denominator, splitUp, abs_le.mpr ⟨by omega, by omega⟩, fun half => ?_⟩
    rcases abs_eq (by omega) |>.mp half with half | half <;> omega

/-- Dividing rounds to the nearest number, and to the even one of two. -/
theorem nearest_roundDiv (numerator : ℕ) {denominator : ℕ} (pos : 0 < denominator) :
    Nearest (numerator / denominator / 10) (roundDiv numerator denominator : ℕ) := by
  obtain ⟨rest, split, near, even⟩ := roundDiv_rest numerator pos
  generalize roundDiv numerator denominator = rounded at *
  have posRat : (0 : ℚ) < denominator := by exact_mod_cast pos
  have splitRat : (numerator : ℚ) = denominator * rounded + rest := by exact_mod_cast split
  have size : |10 * ((numerator : ℚ) / denominator / 10) - (rounded : ℤ)| =
      ((|2 * rest| : ℤ) : ℚ) / denominator / 2 := by
    have off : 10 * ((numerator : ℚ) / denominator / 10) - (rounded : ℤ) =
        2 * rest / denominator / 2 := by
      rw [splitRat]
      push_cast
      field_simp
      ring
    rw [off, abs_div, abs_div, abs_of_pos posRat, abs_two]
    push_cast
    rfl
  have nearRat : ((|2 * rest| : ℤ) : ℚ) ≤ denominator := by exact_mod_cast near
  constructor
  · rw [size]
    have atMost := (div_le_one posRat).mpr nearRat
    linarith
  · rw [size]
    intro half
    have whole : ((|2 * rest| : ℤ) : ℚ) / denominator = 1 := by linarith
    rw [div_eq_one_iff_eq posRat.ne'] at whole
    exact_mod_cast even (by exact_mod_cast whole)

theorem nearest_scaled (mantissa exponent scale : ℕ) :
    Nearest (mantissa * 2 ^ exponent / 2 ^ scale)
      (roundDiv (10 * mantissa * Nat.pow 2 exponent) (Nat.pow 2 scale) : ℕ) := by
  have nearest := nearest_roundDiv (10 * mantissa * Nat.pow 2 exponent) (Nat.two_pow_pos scale)
  have size : ((10 * mantissa * Nat.pow 2 exponent : ℕ) : ℚ) / (2 ^ scale : ℕ) / 10 =
      mantissa * 2 ^ exponent / 2 ^ scale := by
    rw [Nat.pow_eq]
    push_cast
    field_simp
  rwa [size] at nearest

/-- What is counted is nearest, on either side of zero. -/
theorem nearest_count (negative : Bool) (mantissa exponent : ℕ) :
    Nearest (signed negative (mantissa * 2 ^ exponent / 2 ^ 1074))
      (if negative then -(count mantissa exponent : ℤ) else count mantissa exponent) := by
  have nearest : Nearest (mantissa * 2 ^ exponent / 2 ^ 1074) (count mantissa exponent) := by
    rw [count]
    -- Left as a number, the scale would be raised to its power.
    generalize 1074 = scale
    exact nearest_scaled mantissa exponent scale
  rw [signed]
  cases negative with
  | false =>
    rw [if_neg Bool.false_ne_true, if_neg Bool.false_ne_true]
    exact nearest
  | true =>
    rw [if_pos rfl, if_pos rfl]
    exact nearest.neg

/-! ## The text -/

/-- What a text with one digit after its point stands for. -/
def spoken (text : String) : ℚ :=
  signed (text.toList.head? == some '-')
    (Nat.ofDigitChars 10 (text.toList.filter Char.isDigit) 0 / 10)

/-- A text is a sign or nothing, the digits of a whole number, the first of which is zero only
if it is the only one, a point and one digit. -/
def Spelled (negative : Bool) (text : String) : Prop :=
  ∃ (whole : List Char) (digit : Char),
    text.toList = (if negative then ['-'] else []) ++ whole ++ ['.', digit] ∧
      whole ≠ [] ∧ (∀ c ∈ digit :: whole, c.isDigit) ∧ (whole.head? = some '0' → whole = ['0'])

theorem isDigit_of_mem {number : ℕ} {c : Char} (isIn : c ∈ Nat.toDigits 10 number) :
    c.isDigit = true :=
  Nat.isDigit_of_mem_toDigits (by decide) (by decide) isIn

theorem isDigit_last (tenths : ℕ) : (tenths % 10).digitChar.isDigit = true := by
  rw [Nat.isDigit_digitChar]
  exact decide_eq_true (Nat.mod_lt _ (by decide))

theorem head?_toDigits_ne {number : ℕ} (pos : number ≠ 0) :
    (Nat.toDigits 10 number).head? ≠ some '0' := by
  induction number using Nat.strongRecOn with
  | ind number ih =>
    rw [Nat.toDigits_eq_if (by decide)]
    split
    · next small =>
      rw [List.head?_singleton, ne_eq, Option.some.injEq, Nat.digitChar_eq_zero]
      exact pos
    · next large =>
      rw [List.head?_append_of_ne_nil _ Nat.toDigits_ne_nil]
      exact ih (number / 10) (by omega) (by omega)

section

variable (negative : Bool) (tenths : ℕ)

theorem toList_text : (text negative tenths).toList =
    (if negative then ['-'] else []) ++ Nat.toDigits 10 (tenths / 10) ++
      ['.', (tenths % 10).digitChar] := by
  have last : Nat.toDigits 10 (tenths % 10) = [(tenths % 10).digitChar] :=
    Nat.toDigits_of_lt_base (Nat.mod_lt _ (by decide))
  rw [text, String.toList_append, String.toList_append, String.toList_append,
    Nat.toString_eq_repr, Nat.toString_eq_repr, Nat.toList_repr, Nat.toList_repr, last]
  cases negative <;> simp

theorem spelled_text : Spelled negative (text negative tenths) := by
  refine ⟨_, _, toList_text negative tenths, Nat.toDigits_ne_nil, ?_, fun zero => ?_⟩
  · exact List.forall_mem_cons.mpr ⟨isDigit_last tenths, fun c isIn => isDigit_of_mem isIn⟩
  · by_cases none : tenths / 10 = 0
    · rw [none, Nat.toDigits_zero]
    · exact absurd zero (head?_toDigits_ne none)

theorem spoken_text : spoken (text negative tenths) = signed negative (tenths / 10) := by
  have digits : (text negative tenths).toList.filter Char.isDigit =
      Nat.toDigits 10 (tenths / 10) ++ [(tenths % 10).digitChar] := by
    have whole : (Nat.toDigits 10 (tenths / 10)).filter Char.isDigit =
        Nat.toDigits 10 (tenths / 10) := List.filter_eq_self.mpr fun c isIn => isDigit_of_mem isIn
    rw [toList_text, List.filter_append, List.filter_append, whole]
    cases negative <;> simp [Nat.mod_lt]
  have counted : Nat.ofDigitChars 10 ((text negative tenths).toList.filter Char.isDigit) 0 =
      tenths := by
    rw [digits, Nat.ofDigitChars_append, Nat.ofDigitChars_ten_toDigits,
      Nat.ofDigitChars_cons_digitChar_of_lt_ten (Nat.mod_lt _ (by decide)), Nat.ofDigitChars_nil]
    exact Nat.div_add_mod _ _
  have sign : ((text negative tenths).toList.head? == some '-') = negative := by
    obtain ⟨first, rest, isFirst⟩ := List.exists_cons_of_ne_nil
      (Nat.toDigits_ne_nil (n := tenths / 10) (b := 10))
    have digit : first.isDigit :=
      isDigit_of_mem (isFirst ▸ List.mem_cons_self : first ∈ Nat.toDigits 10 (tenths / 10))
    rw [toList_text, isFirst]
    cases negative with
    | true => rfl
    | false =>
      rw [beq_eq_false_iff_ne]
      rintro ⟨⟩
      cases digit
  rw [spoken, counted, sign]

/-- No character of the text is wide or special. -/
theorem char_text {c : Char} (isIn : c ∈ (text negative tenths).toList) :
    c = '-' ∨ c = '.' ∨ c.isDigit = true := by
  rw [toList_text] at isIn
  simp only [List.mem_append, List.mem_cons, List.not_mem_nil, or_false] at isIn
  rcases isIn with (isSign | isWhole) | rfl | rfl
  · refine .inl ?_
    cases negative <;> simp_all
  · exact .inr (.inr (isDigit_of_mem isWhole))
  · exact .inr (.inl rfl)
  · exact .inr (.inr (isDigit_last tenths))

theorem ascii_text : ∀ c ∈ (text negative tenths).toList, c.toNat < 128 := by
  intro c isIn
  rcases char_text negative tenths isIn with rfl | rfl | digit
  · decide
  · decide
  · have atMost : c.toNat ≤ 57 := (Char.isDigit_iff_toNat.mp digit).2
    omega

theorem utf8ByteSize_text : (text negative tenths).utf8ByteSize =
    negative.toNat + (Nat.toDigits 10 (tenths / 10)).length + 2 := by
  rw [Utf8.utf8ByteSize_of_ascii (ascii_text negative tenths), toList_text, List.length_append,
    List.length_append]
  cases negative <;> rfl

/-- How much fits a text of sixteen bytes. -/
theorem utf8ByteSize_text_le_iff : (text negative tenths).utf8ByteSize ≤ 16 ↔
    (tenths / 10 : ℚ) < if negative then 10 ^ 13 else 10 ^ 14 := by
  have below (limit : ℕ) (pos : 0 < limit) :
      (Nat.toDigits 10 (tenths / 10)).length ≤ limit ↔ (tenths / 10 : ℚ) < 10 ^ limit := by
    rw [Nat.length_toDigits_le_iff (by decide) pos, Nat.div_lt_iff_lt_mul (by decide),
      div_lt_iff₀ (by norm_num)]
    exact_mod_cast Iff.rfl
  rw [utf8ByteSize_text]
  cases negative with
  | false =>
    rw [if_neg Bool.false_ne_true, ← below 14 (by decide), Bool.toNat_false]
    omega
  | true =>
    rw [if_pos rfl, ← below 13 (by decide), Bool.toNat_true]
    omega

end

/-- How the text of a double stands for it. -/
structure Rounded (value : Float) (negative : Bool) (number : ℚ) : Prop where
  spelled : Spelled negative (render value)
  /-- It stands for the number of tenths that is nearest. -/
  nearest : ∃ tenths : ℤ, spoken (render value) = tenths / 10 ∧ Nearest number tenths
  near : |spoken (render value) - number| ≤ 1 / 20
  /-- A larger double has no smaller text. -/
  monotone : ∀ other otherNegative otherNumber,
    Binary64.number? other = some (otherNegative, otherNumber) → number ≤ otherNumber →
      spoken (render value) ≤ spoken (render other)

variable {value : Float} {negative : Bool} {number : ℚ}

/-- The text of a finite double has its sign and the number of tenths nearest to it. -/
theorem exists_text (finite : Binary64.number? value = some (negative, number)) :
    ∃ tenths : ℕ, render value = text negative tenths ∧
      Nearest number (if negative then -(tenths : ℤ) else tenths) := by
  obtain ⟨mantissa, exponent, isFinite, rfl⟩ := Binary64.exists_of_number? finite
  refine ⟨count mantissa exponent, ?_, nearest_count negative mantissa exponent⟩
  rw [render, isFinite]

theorem exists_tenths (finite : Binary64.number? value = some (negative, number)) :
    ∃ tenths : ℤ, spoken (render value) = tenths / 10 ∧ Nearest number tenths := by
  obtain ⟨tenths, isText, nearest⟩ := exists_text finite
  refine ⟨_, ?_, nearest⟩
  rw [isText, spoken_text, signed]
  cases negative <;> simp [neg_div]

theorem rounded_render (finite : Binary64.number? value = some (negative, number)) :
    Rounded value negative number := by
  obtain ⟨tenths, stands, nearest⟩ := exists_tenths finite
  refine ⟨?_, ⟨tenths, stands, nearest⟩, ?_, ?_⟩
  · obtain ⟨size, isText, -⟩ := exists_text finite
    rw [isText]
    exact spelled_text negative size
  · have near := nearest.near
    rw [abs_le] at near ⊢
    rw [stands]
    constructor <;> linarith
  · intro other otherNegative otherNumber otherFinite le
    obtain ⟨otherTenths, otherStands, otherNearest⟩ := exists_tenths otherFinite
    have mono : (tenths : ℚ) ≤ otherTenths := by exact_mod_cast nearest.mono otherNearest le
    rw [stands, otherStands]
    linarith

/-- The sign of zero is kept, and a tie goes to the even neighbour. -/
example : render (-0.04) = "-0.0" ∧ render 0.25 = "0.2" ∧ render 0.75 = "0.8" := by
  decide +kernel

end Tenths

end Uplink
