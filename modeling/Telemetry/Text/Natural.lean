import Telemetry.Text.Positional

/-!
# Numbers written in digits

A natural number in a setting is written in ASCII digits, of which the first may be zeros, and may
follow a plus sign.
-/

namespace Telemetry.Text

/-- The number of a text of ASCII digits, which may follow a plus sign. There is no bound on it, and
an empty text has none. -/
def natural? (s : String) : Option Nat :=
  let digits := match s.toList with
    | '+' :: rest => rest
    | cs => cs
  if digits ≠ [] ∧ digits.all Char.isDigit then
    some (Positional.value 10 (digits.map fun c => c.toNat - 48))
  else none

/-- A number below `bound` written in a text. One that is too large is refused and not cut off. -/
def naturalBelow? (bound : Nat) (s : String) : Option Nat := (natural? s).filter (· < bound)

end Telemetry.Text
