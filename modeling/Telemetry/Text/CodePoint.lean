import Telemetry.Text.Hex
import Telemetry.Text.Positional

/-!
# Characters written by number

A character may be written by its number in the Unicode character set. Halves of surrogate pairs
have numbers but are no characters.
-/

namespace Telemetry.Text

/-- The character of a number. Halves of surrogate pairs and numbers beyond the last plane have
none. -/
def charOf? (n : Nat) : Option Char :=
  if n < 0xd800 ∨ (0xe000 ≤ n ∧ n < 0x110000) then some (Char.ofNat n) else none

/-- The character of a number in hex digits, of which there may be any number. -/
def hexChar? (digits : List Char) : Option Char := do
  let ds ← hexValues? digits
  charOf? (Positional.value 16 ds)

end Telemetry.Text
