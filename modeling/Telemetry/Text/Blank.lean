import Telemetry.Text.Ranges

/-!
# Blanks

The characters that separate words without being seen: the white space of the Unicode character
database.
-/

namespace Telemetry.Text

/-- The code points of white space, in increasing order. -/
def blankRanges : Ranges := [
  (0x9, 0xd), (0x20, 0x20), (0x85, 0x85), (0xa0, 0xa0), (0x1680, 0x1680), (0x2000, 0x200a),
  (0x2028, 0x2029), (0x202f, 0x202f), (0x205f, 0x205f), (0x3000, 0x3000)]

/-- Whether a character is white space. -/
def isBlank (c : Char) : Bool := blankRanges.cover c

/-- A text without the blanks at its beginning and end. Those between words are kept. -/
def trimmed (cs : List Char) : List Char :=
  ((cs.dropWhile isBlank).reverse.dropWhile isBlank).reverse

end Telemetry.Text
