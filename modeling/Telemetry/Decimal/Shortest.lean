import Telemetry.Decimal.Binary64

/-!
# The shortest decimal that reads back

The reals that round to a given binary number form an interval around it. Among the decimals in
that interval those with the fewest digits are looked at, and of these the one nearest to the number
is its shortest decimal. With `n` digits only the two neighbours of the number on the grid of
`n`-digit decimals can be nearest, so seventeen grids are tried in turn.
-/

namespace Telemetry.Decimal

/-- A decimal `digits * 10 ^ exponent`. Decimals with zeros at the end may be equal as numbers, but
they are different here. -/
structure Numeral where
  digits : Nat
  exponent : Int
deriving DecidableEq

/-- The reals that round to a number, in quarters of a unit, with their ends included or not. In
quarters the ends are whole numbers too. -/
structure Interval where
  low : Nat
  middle : Nat
  high : Nat
  closed : Bool

/-- The interval of a number. Below a power of two the neighbours are twice as close, and the ends
round to the number exactly if its significand is even. -/
def Binary64.interval (x : Binary64) : Interval :=
  let (m, e) := x.parts
  { low := (4 * m - if m = 2 ^ 52 ∧ 0 < e then 1 else 2) * 2 ^ e
    middle := 4 * m * 2 ^ e
    high := (4 * m + 2) * 2 ^ e
    closed := m % 2 = 0 }

/-- Where a decimal stands, as a fraction of quarters of a unit. -/
def Numeral.position (d : Numeral) : Nat × Nat :=
  if 0 ≤ d.exponent then (d.digits * 10 ^ d.exponent.toNat * 2 ^ 1076, 1)
  else (d.digits * 2 ^ 1076, 10 ^ (-d.exponent).toNat)

/-- Whether a decimal rounds to the number of the interval. The comparison is one of whole numbers,
so nothing is rounded in it. -/
def Interval.holds (i : Interval) (d : Numeral) : Bool :=
  let (num, den) := d.position
  if i.closed then i.low * den ≤ num && num ≤ i.high * den
  else i.low * den < num && num < i.high * den

/-- How far a decimal is from the middle, as the numerator over its own denominator. -/
def Interval.distance (i : Interval) (d : Numeral) : Nat :=
  let (num, den) := d.position
  if i.middle * den ≤ num then num - i.middle * den else i.middle * den - num

/-- The power of ten of the leading digit of a positive number of units. The factor `10 ^ 400`
leaves enough digits for the smallest of them. -/
def leadingExponent (units : Nat) : Int :=
  ((Nat.toDigits 10 (units * 10 ^ 400 / 2 ^ 1074)).length : Int) - 401

/-- The best decimal of `n` digits, if one rounds to the number. If both neighbours do, the nearer
one is taken, and of two equally near ones the one with the even last digit. -/
def Interval.onGrid (i : Interval) (units : Nat) (exponent : Int) : Option Numeral :=
  let floor := if 0 ≤ exponent then units / (2 ^ 1074 * 10 ^ exponent.toNat)
    else units * 10 ^ (-exponent).toNat / 2 ^ 1074
  let below : Numeral := ⟨floor, exponent⟩
  let above : Numeral := ⟨floor + 1, exponent⟩
  match i.holds below, i.holds above with
  | true, true =>
    let down := i.distance below
    let up := i.distance above
    some (if down < up || (down == up && floor % 2 == 0) then below else above)
  | true, false => some below
  | false, true => some above
  | false, false => none

/-- The shortest decimal of the absolute value of a number; zero has the single digit 0. Grids are
tried from one digit on, and seventeen digits are always enough. -/
def Binary64.shortest (x : Binary64) : Numeral :=
  if x.magnitude = 0 then ⟨0, 0⟩
  else
    let lead := leadingExponent x.units
    let i := x.interval
    let found := (List.range 17).findSome? fun (n : Nat) => i.onGrid x.units (lead - n)
    found.getD ⟨0, 0⟩

end Telemetry.Decimal
