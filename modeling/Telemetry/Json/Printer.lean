import Telemetry.Json.Value
import Telemetry.Text.Hex
import Telemetry.Text.Positional

/-!
# Compact JSON text

A value is written without spaces, the members of an object in the order in which they are listed.
In strings only the quote, the backslash and the characters below the space are escaped.

The writers put their text in front of a given rest, so that a value inside a larger text is written
by the same function.
-/

namespace Telemetry.Json

/-- One character of a string. Only what would end the string or may not stand in it is escaped, so
all text beyond ASCII is written as it is. -/
def escapedChar (c : Char) : List Char :=
  if c = '"' then ['\\', '"']
  else if c = '\\' then ['\\', '\\']
  else if c = '\x08' then ['\\', 'b']
  else if c = '\x0c' then ['\\', 'f']
  else if c = '\n' then ['\\', 'n']
  else if c = '\r' then ['\\', 'r']
  else if c = '\t' then ['\\', 't']
  else if c.toNat < 0x20 then '\\' :: 'u' :: (Positional.digits 16 4 c.toNat).map Text.hexDigit
  else [c]

/-- The characters of a string, in front of `rest`, each escaped where it has to be. -/
def writeChars : List Char → List Char → List Char
  | [], rest => rest
  | c :: cs, rest => escapedChar c ++ writeChars cs rest

/-- A string with its quotes. -/
def writeString (s : String) (rest : List Char) : List Char :=
  '"' :: writeChars s.toList ('"' :: rest)

namespace Value

mutual

/-- The text of a value, in front of `rest`. Nothing is written between its parts, so equal values
have one text. -/
def write : Value → List Char → List Char
  | null, rest => 'n' :: 'u' :: 'l' :: 'l' :: rest
  | boolean true, rest => 't' :: 'r' :: 'u' :: 'e' :: rest
  | boolean false, rest => 'f' :: 'a' :: 'l' :: 's' :: 'e' :: rest
  | number n, rest => n.text.toList ++ rest
  | string s, rest => writeString s rest
  | array [], rest => '[' :: ']' :: rest
  | array (v :: vs), rest => '[' :: write v (writeItems vs (']' :: rest))
  | object [], rest => '\x7b' :: '\x7d' :: rest
  | object (m :: ms), rest => '\x7b' :: writeMember m (writeMembers ms ('\x7d' :: rest))

/-- The items of an array after the first, each behind a comma. -/
def writeItems : List Value → List Char → List Char
  | [], rest => rest
  | v :: vs, rest => ',' :: write v (writeItems vs rest)

/-- The members of an object after the first, each behind a comma. -/
def writeMembers : List (String × Value) → List Char → List Char
  | [], rest => rest
  | m :: ms, rest => ',' :: writeMember m (writeMembers ms rest)

/-- A member: its key, a colon and its value. -/
def writeMember : String × Value → List Char → List Char
  | (k, v), rest => writeString k (':' :: write v rest)

end

/-- The compact text of a value. It is what is stored in a row and what is bound to be compared with
one. -/
def compact (v : Value) : String := String.ofList (v.write [])

end Value

end Telemetry.Json
