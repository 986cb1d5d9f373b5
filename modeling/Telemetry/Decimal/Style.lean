import Telemetry.Decimal.Shortest

/-!
# How decimals are written

A binary number is written as its shortest decimal. A leading digit between the fifth place after
the point and the sixteenth before it makes the decimal positional, with at least one digit on
either side of the point; any other is written with a signed exponent without leading zeros.
-/

namespace Telemetry.Decimal

/-- The choices of a way of writing. They are data, so one rule writes numbers for every format. -/
structure Style where
  /-- the smallest exponent of the leading digit that is written positionally -/
  positionalFrom : Int
  /-- the largest one -/
  positionalTo : Int

/-- The digits of a decimal without trailing zeros, and the exponent of the leading one. -/
def Numeral.significant (d : Numeral) : List Char × Int :=
  let all := Nat.toDigits 10 d.digits
  let kept := (all.reverse.dropWhile (· == '0')).reverse
  (if kept.isEmpty then ['0'] else kept, (all.length : Int) - 1 + d.exponent)

namespace Style

/-- Digits with the point after the digit of exponent zero. Zeros are put in where the digits do not
reach the point, so there is a digit on either side of it. -/
def positional (ds : List Char) (lead : Int) : List Char :=
  if 0 ≤ lead then
    let whole := ds.take (lead.toNat + 1)
    let fraction := ds.drop (lead.toNat + 1)
    whole ++ List.replicate (lead.toNat + 1 - whole.length) '0' ++ '.' ::
      (if fraction.isEmpty then ['0'] else fraction)
  else
    '0' :: '.' :: List.replicate ((-lead).toNat - 1) '0' ++ ds

/-- Digits with the point after the leading one, and the exponent of that digit. -/
def scientific : List Char → Int → List Char
  | [], _ => []
  | d :: ds, lead =>
    d :: (if ds.isEmpty then [] else '.' :: ds) ++
      'e' :: (if 0 ≤ lead then '+' else '-') :: Nat.toDigits 10 lead.natAbs

/-- A finite number as text, by the exponent of its leading digit in the one form or the other. -/
def text (n : Style) (x : Binary64) : String :=
  let (ds, lead) := x.shortest.significant
  let body :=
    if n.positionalFrom ≤ lead ∧ lead ≤ n.positionalTo then positional ds lead
    else scientific ds lead
  String.ofList (if x.negative then '-' :: body else body)

end Style

end Telemetry.Decimal
