/-!
# Number literals

`Json.Number` is a number as a document spells it: a sign, digits before and after
the point, and a written exponent. `Number.toDouble?` is the double that it denotes.
The digits are gathered into 64 bits first and scaled by a power of ten afterwards,
so the result is correctly rounded for short literals and may be one unit off for
long ones; a literal too large for any double denotes nothing.
-/

namespace Uplink.Json

/-- A decimal digit. -/
abbrev Digit := Fin 10

namespace Digit

/-- The digit that a character spells. -/
def ofChar? (c : Char) : Option Digit :=
  if bounds : 48 ≤ c.toNat ∧ c.toNat ≤ 57 then some ⟨c.toNat - 48, by omega⟩ else none

/-- The character that spells a digit. -/
def toChar (digit : Digit) : Char := Char.ofNat (48 + digit.val)

/-- The number that digits spell, most significant digit first. -/
def value (digits : List Digit) : Nat :=
  digits.foldl (fun total digit => total * 10 + digit.val) 0

/-- The digits of a number, most significant digit first. -/
def ofNat (value : Nat) : List Digit :=
  if value < 10 then [Fin.ofNat 10 value] else ofNat (value / 10) ++ [Fin.ofNat 10 value]

end Digit

/-- A written exponent. -/
structure Exponent where
  negative : Bool
  digits : List Digit
deriving DecidableEq, Repr

/-- A number as it is written. -/
structure Number where
  negative : Bool
  whole : List Digit
  fraction : List Digit := []
  exponent : Option Exponent := none
deriving DecidableEq, Repr

namespace Number

/-- A natural number, written without a point or an exponent. -/
def ofNat (value : Nat) : Number := { negative := false, whole := Digit.ofNat value }

/-- The natural number that a literal without sign, point and exponent spells. -/
def toNat? (number : Number) : Option Nat :=
  if !number.negative && number.fraction.isEmpty && number.exponent.isNone then
    some (Digit.value number.whole)
  else none

/-- The number of values of a significand. -/
def significandLimit : Nat := Nat.pow 2 64

/-- Gather digits before the point while they fit: the significand, and how many
digits were dropped from the first one that did not fit. -/
def gatherWhole (significand : Nat) : List Digit → Nat × Nat
  | [] => (significand, 0)
  | digit :: rest =>
    let next := significand * 10 + digit.val
    if next < significandLimit then gatherWhole next rest else (significand, rest.length + 1)

/-- Gather digits after the point while they fit: the significand, and how many
digits were taken. -/
def gatherFraction (significand : Nat) : List Digit → Nat × Nat
  | [] => (significand, 0)
  | digit :: rest =>
    let next := significand * 10 + digit.val
    if next < significandLimit then
      let (gathered, taken) := gatherFraction next rest
      (gathered, taken + 1)
    else (significand, 0)

/-- The double nearest to a power of ten. -/
def powerOfTen (exponent : Nat) : Float := Float.ofScientific 1 false exponent

/-- The largest exponent of ten whose power is a finite double. -/
def maxPower : Nat := 308

/-- Divide by a power of ten, in steps of the largest one that is a double. -/
def shrink (value : Float) (exponent : Nat) : Float :=
  if exponent ≤ maxPower then value / powerOfTen exponent
  else if value == 0 then value
  else shrink (value / powerOfTen maxPower) (exponent - maxPower)
termination_by exponent
decreasing_by simp_all [maxPower]; omega

/-- Scale by a power of ten; nothing when the result is no finite double. -/
def scale (value : Float) : (exponent : Int) → Option Float
  | .ofNat exponent =>
    if exponent ≤ maxPower then
      let scaled := value * powerOfTen exponent
      if scaled.isInf then none else some scaled
    else if value == 0 then some value
    else none
  | .negSucc exponent => some (shrink value (exponent + 1))

/-- The largest written exponent that is taken into account. -/
def exponentLimit : Nat := Nat.pow 2 31 - 1

/-- Keep an exponent within 32 bits. -/
def clampExponent (exponent : Int) : Int :=
  max (-(exponentLimit : Int) - 1) (min exponentLimit exponent)

/-- The size of the double that a literal denotes, regardless of the sign. -/
def magnitude? (number : Number) : Option Float :=
  let (whole, dropped) := gatherWhole 0 number.whole
  let (significand, taken) := gatherFraction whole number.fraction
  let shift : Int := (dropped : Int) - taken
  let value := significand.toUInt64.toFloat
  match number.exponent with
  | none => scale value shift
  | some exponent =>
    let written := Digit.value exponent.digits
    if written > exponentLimit then
      if !exponent.negative && significand != 0 then none else some 0
    else
      let signed : Int := if exponent.negative then -(written : Int) else written
      scale value (clampExponent (shift + signed))

/-- The double that a literal denotes. -/
def toDouble? (number : Number) : Option Float :=
  number.magnitude?.map fun size => if number.negative then -size else size

end Number

end Uplink.Json
