/-!
# One decimal place

`Tenths.render` writes a double with one digit after the point. The value of a
finite double is a natural number times a power of two, so it is rounded to tenths
exactly, in natural numbers: to the nearest, and a tie to the even neighbour.
-/

namespace Uplink

/-- What the bits of a double stand for. -/
inductive Binary64 where
  | nan
  | infinite (negative : Bool)
  /-- The number `mantissa * 2 ^ (exponent - 1074)`. -/
  | finite (negative : Bool) (mantissa exponent : Nat)
deriving DecidableEq, Repr

namespace Binary64

/-- Take the bits of a double apart. Subnormal numbers share the smallest exponent. -/
def ofBits (bits : UInt64) : Binary64 :=
  let negative := bits >>> 63 == 1
  let biased := (bits >>> 52 &&& 0x7FF).toNat
  let fraction := (bits &&& 0xFFFFFFFFFFFFF).toNat
  if biased = 0x7FF then if fraction = 0 then infinite negative else nan
  else if biased = 0 then finite negative fraction 0
  else finite negative (Nat.pow 2 52 + fraction) (biased - 1)

end Binary64

namespace Tenths

/-- Divide and round to the nearest natural number, a tie to the even one. -/
def roundDiv (numerator denominator : Nat) : Nat :=
  let quotient := numerator / denominator
  let twice := 2 * (numerator % denominator)
  if twice < denominator then quotient
  else if denominator < twice then quotient + 1
  else quotient + quotient % 2

/-- The size of a finite double in tenths. -/
def count (mantissa exponent : Nat) : Nat :=
  roundDiv (10 * mantissa * Nat.pow 2 exponent) (Nat.pow 2 1074)

/-- A number of tenths as text. -/
def text (negative : Bool) (tenths : Nat) : String :=
  (if negative then "-" else "") ++ toString (tenths / 10) ++ "." ++ toString (tenths % 10)

/-- A double with one digit after the point. The sign of zero is kept. -/
def render (value : Float) : String :=
  match Binary64.ofBits value.toBits with
  | .nan => "NaN"
  | .infinite negative => if negative then "-inf" else "inf"
  | .finite negative mantissa exponent => text negative (count mantissa exponent)

end Tenths

end Uplink
