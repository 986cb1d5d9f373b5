import Telemetry.Power

/-!
# Finite binary floating-point numbers of 64 bits

A finite number is a sign and the other 63 bits of its standard layout, which read as one number
order the magnitudes. Every finite number is a whole multiple of `2 ^ -1074`; `units` is that
multiple, so products, quotients and comparisons are exact arithmetic on natural numbers, followed
by one rounding to the nearest number, ties to the even one.
-/

namespace Telemetry.Decimal

/-- A finite number. What is infinite or no number has no place in JSON, and so it cannot be built.
-/
structure Binary64 where
  negative : Bool
  /-- eleven bits of exponent and fifty-two of fraction -/
  magnitude : Nat
  finite : magnitude < 2047 * 2 ^ 52
deriving DecidableEq

namespace Binary64

/-- The zero of a sign. -/
def zero (negative : Bool) : Binary64 := ⟨negative, 0, by decide⟩

/-- The significand, and how many places it is shifted to the left. The smallest numbers have no
leading bit of their own, and are not shifted. -/
def parts (x : Binary64) : Nat × Nat :=
  if x.magnitude < 2 ^ 52 then (x.magnitude, 0)
  else (2 ^ 52 + x.magnitude % 2 ^ 52, x.magnitude / 2 ^ 52 - 1)

/-- The absolute value in units of `2 ^ -1074`, which is a whole number for every finite one. -/
def units (x : Binary64) : Nat := x.parts.1 * 2 ^ x.parts.2

/-- Equal as numbers: the two zeros are equal. All other numbers have one layout each. -/
def same (x y : Binary64) : Bool :=
  x.magnitude = y.magnitude && (x.negative == y.negative || x.magnitude == 0)

/-- The magnitude nearest to `num / den` units, ties to even. The shift leaves fifty-three bits of
the quotient; rounding up may carry into the exponent, which the layout takes as it should be. -/
def nearestMagnitude (num den : Nat) : Nat :=
  let shift := (num / den).log2 - 52
  let step := den * 2 ^ shift
  let m := num / step
  let r := num % step
  let up := step < 2 * r || (step == 2 * r && m % 2 == 1)
  shift * 2 ^ 52 + (if up then m + 1 else m)

/-- The number nearest to `num / den` units, or nothing beyond the largest one. All rounding of this
library is done here. -/
def nearest (negative : Bool) (num den : Nat) : Option Binary64 :=
  let magnitude := nearestMagnitude num den
  if h : magnitude < 2047 * 2 ^ 52 then some ⟨negative, magnitude, h⟩ else none

/-- The number nearest to a natural number. -/
def ofNat (n : Nat) : Option Binary64 := nearest false (n * 2 ^ 1074) 1

/-- The rounded product of two absolute values. -/
def mul (x y : Binary64) : Option Binary64 :=
  nearest (x.negative != y.negative) (x.units * y.units) (2 ^ 1074)

/-- The rounded quotient of two absolute values; the divisor is not zero. -/
def div (x y : Binary64) : Option Binary64 :=
  nearest (x.negative != y.negative) (x.units * 2 ^ 1074) y.units

/-- The sixty-four bits of the standard layout. -/
def bits (x : Binary64) : Nat := (if x.negative then 2 ^ 63 else 0) + x.magnitude

end Binary64

end Telemetry.Decimal
