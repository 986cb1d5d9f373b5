import Telemetry.Text.Blank
import Telemetry.Text.CodePoint

/-!
# Escapes of patterns

A backslash in a pattern gives the character behind it another meaning, or takes its special
meaning away. Which escapes there are does not depend on where they stand, but what is passed over
inside one depends on the mode.
-/

namespace Telemetry.Log.Pattern

/-- How a part of a pattern is read. -/
structure Mode where
  /-- letters of both cases are one -/
  caseless : Bool := false
  /-- a text consists of characters, and not of bytes -/
  unicode : Bool := true
  /-- blanks and comments may be put between the parts -/
  spaced : Bool := false

/-- Pass over blanks and comments. A comment begins at a number sign and ends with its line. -/
def skipSpace : (inComment : Bool) → List Char → List Char
  | _, [] => []
  | true, c :: cs => skipSpace (c != '\n') cs
  | false, c :: cs =>
    if c = '#' then skipSpace true cs
    else if Text.isBlank c then skipSpace false cs
    else c :: cs

/-- The text from the next character that counts. -/
def Mode.skip (m : Mode) (cs : List Char) : List Char :=
  if m.spaced then skipSpace false cs else cs

/-- What an escape stands for. -/
inductive Escape where
  | character (c : Char)
  /-- a byte written in two hex digits -/
  | byte (c : Char)
  /-- the digits, the blanks or the word characters, or all others -/
  | kind (negated : Bool)
  /-- the beginning or the end of the text -/
  | border
  /-- a place at the edge of a word, or none such -/
  | wordEdge

/-- The character of an escape that stands for one. -/
def Escape.char? : Escape → Option Char
  | character c | byte c => some c
  | _ => none

/-- The next `n` characters that count, and the text from the one after them. -/
def takeCounting (m : Mode) : (n : Nat) → List Char → Option (List Char × List Char)
  | 0, cs => some ([], cs)
  | _ + 1, [] => none
  | n + 1, c :: cs => (takeCounting m n (m.skip cs)).map fun (ds, rest) => (c :: ds, rest)

/-- A character written in `n` hex digits. -/
def readHex (m : Mode) (n : Nat) (cs : List Char) : Option (Char × List Char) := do
  let (digits, rest) ← takeCounting m n (m.skip cs)
  return (← Text.hexChar? digits, rest)

/-- An escape whose backslash has been read. References to groups and classes named by a property
are not supported. -/
def readEscape (m : Mode) : List Char → Option (Escape × List Char)
  | [] => none
  | 'x' :: cs => (readHex m 2 cs).map fun (c, rest) => (.byte c, rest)
  | 'u' :: cs => (readHex m 4 cs).map fun (c, rest) => (.character c, rest)
  | 'U' :: cs => (readHex m 8 cs).map fun (c, rest) => (.character c, rest)
  | 'a' :: cs => some (.character '\x07', cs)
  | 'f' :: cs => some (.character '\x0c', cs)
  | 'n' :: cs => some (.character '\n', cs)
  | 'r' :: cs => some (.character '\r', cs)
  | 't' :: cs => some (.character '\t', cs)
  | 'v' :: cs => some (.character '\x0b', cs)
  | c :: cs =>
    if ['d', 's', 'w'].contains c then some (.kind false, cs)
    else if ['D', 'S', 'W'].contains c then some (.kind true, cs)
    else if ['A', 'z'].contains c then some (.border, cs)
    else if ['b', 'B', '<', '>'].contains c then some (.wordEdge, cs)
    else if c.toNat < 0x80 && !c.isAlphanum then some (.character c, cs)
    else none

end Telemetry.Log.Pattern
