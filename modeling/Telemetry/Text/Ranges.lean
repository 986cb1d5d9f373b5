/-!
# Ranges of characters

A property of characters that follows no simple rule is given by a table of ranges of code points.
-/

namespace Telemetry.Text

/-- Ranges of code points, bounds included, in increasing order. -/
abbrev Ranges := List (Nat × Nat)

/-- Whether a character lies in one of the ranges. Surrogates are no characters, so ranges that hold
them cover nothing by that. -/
def Ranges.cover (ranges : Ranges) (c : Char) : Bool :=
  ranges.any fun r => r.1 ≤ c.toNat && c.toNat ≤ r.2

end Telemetry.Text
