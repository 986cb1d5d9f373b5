import Telemetry.Text.Hidden

/-!
# Quoted text in messages

A message shows a piece of foreign text between double quotes. Inside, the quote, the backslash and
the usual controls have two-character escapes, and a character without a visible form is written as
its code point in braces. Everything else, the apostrophe included, stays as it is.
-/

namespace Telemetry.Text

/-- The lower-case hex digits of a number, without leading zeros. -/
def hexText (n : Nat) : List Char := Nat.toDigits 16 n

/-- One character of quoted text, escaped if it could end the text or could not be seen in it. -/
def quotedChar (c : Char) : List Char :=
  if c = '"' then ['\\', '"']
  else if c = '\\' then ['\\', '\\']
  else if c = '\n' then ['\\', 'n']
  else if c = '\r' then ['\\', 'r']
  else if c = '\t' then ['\\', 't']
  else if c = '\x00' then ['\\', '0']
  else if isHidden c then ['\\', 'u', '\x7b'] ++ hexText c.toNat ++ ['\x7d']
  else [c]

/-- A piece of text as a message shows it, between quotes. -/
def quoted (s : String) : String :=
  String.ofList ('"' :: s.toList.flatMap quotedChar ++ ['"'])

end Telemetry.Text
