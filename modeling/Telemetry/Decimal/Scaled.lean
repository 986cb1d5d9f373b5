import Telemetry.Decimal.Binary64

/-!
# Numbers written with a power of ten

A number read as digits and a power of ten is not rounded once. Its digits are rounded to a binary
number, a power of ten up to the 308th is rounded to another, and the two are multiplied or divided
and rounded again. Smaller powers are reached in steps of 308. For short numbers with small powers
each step is exact and the result is the nearest binary number.
-/

namespace Telemetry.Decimal

/-- The binary number nearest to a power of ten. -/
def powerOfTen (k : Nat) : Option Binary64 := Binary64.ofNat (10 ^ k)

/-- Multiply by `10 ^ e`, in rounded steps of at most 308 places. A number that has become zero
stays zero, and one that would become infinite is refused. `steps` bounds the steps downward: from
a 64-bit significand three of them lead to zero. -/
def scale : (steps : Nat) → Binary64 → Int → Option Binary64
  | 0, _, _ => some (.zero false)
  | steps + 1, x, e =>
    if e.natAbs ≤ 308 then
      (powerOfTen e.natAbs).bind fun p => if 0 ≤ e then x.mul p else x.div p
    else if x.magnitude = 0 then some x
    else if 0 ≤ e then none
    else (powerOfTen 308).bind fun p => (x.div p).bind fun y => scale steps y (e + 308)

/-- The number `significand * 10 ^ e` with its sign, rounded step by step. It need not be the number
nearest to the decimal, if the digits or the power do not fit. -/
def ofScaled (negative : Bool) (significand : Nat) (e : Int) : Option Binary64 :=
  (Binary64.ofNat significand).bind fun x =>
    (scale 4 x e).map fun y => { y with negative := negative }

end Telemetry.Decimal
