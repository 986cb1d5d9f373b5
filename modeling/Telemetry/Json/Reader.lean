import Telemetry.Json.Draft
import Telemetry.Decimal.Scaled
import Telemetry.Text.Hex
import Telemetry.Text.Positional

/-!
# Reading JSON text

The reader takes a text from left to right and makes a draft of it. It never looks ahead of the
first fault: what stands before it is kept, and the draft says where the fault was met.
-/

namespace Telemetry.Json

/-- Whether a character may stand between the parts of a text: space, tab and the two ends of a
line, and no other white space. -/
def isBlank (c : Char) : Bool := c == ' ' || c == '\n' || c == '\t' || c == '\r'

/-- The text from its first character on that is no blank. -/
def skipBlanks (cs : List Char) : List Char := cs.dropWhile isBlank

/-! ## Strings -/

/-- Four hex digits. The text ends too early if fewer than four bytes are left, and that is told
apart from digits that are none. -/
def readHexFour : List Char → Except Fault (Nat × List Char)
  | a :: b :: c :: d :: rest =>
    match Text.hexValues? [a, b, c, d] with
    | some ds => .ok (Positional.value 16 ds, rest)
    | none => .error .malformed
  | cs => if (String.ofList cs).utf8ByteSize < 4 then .error .truncated else .error .malformed

/-- The character of a two-character escape. -/
def plainEscape? (c : Char) : Option Char :=
  if c = '"' ∨ c = '\\' ∨ c = '/' then some c
  else if c = 'b' then some '\x08'
  else if c = 'f' then some '\x0c'
  else if c = 'n' then some '\n'
  else if c = 'r' then some '\r'
  else if c = 't' then some '\t'
  else none

/-- Whether a number is the first half of a surrogate pair. -/
def isHighSurrogate (n : Nat) : Bool := 0xd800 ≤ n && n < 0xdc00

/-- Whether a number is the second half of a surrogate pair. -/
def isLowSurrogate (n : Nat) : Bool := 0xdc00 ≤ n && n < 0xe000

/-- The character of the four hex digits that stand here, or of two surrogates each in such digits
behind `\u`. Half of a pair is malformed. -/
def readCodePoint (cs : List Char) : Except Fault (Char × List Char) := do
  let (n, rest) ← readHexFour cs
  if isLowSurrogate n then throw .malformed
  if !isHighSurrogate n then return (Char.ofNat n, rest)
  match rest with
  | [] | ['\\'] => throw .truncated
  | '\\' :: 'u' :: rest => do
    let (m, rest) ← readHexFour rest
    if !isLowSurrogate m then throw .malformed
    return (Char.ofNat (0x10000 + (n - 0xd800) * 0x400 + (m - 0xdc00)), rest)
  | _ => throw .malformed

/-- The character of an escape, whose backslash has been read. -/
def readEscape : List Char → Except Fault (List Char × List Char)
  | [] => .error .truncated
  | 'u' :: cs => (readCodePoint cs).map fun (c, rest) => ([c], rest)
  | c :: cs =>
    match plainEscape? c with
    | some e => .ok ([e], cs)
    | none => .error .malformed

/-- Pass over an escape: any four hex digits will do, so half of a surrogate pair is no fault here.
-/
def passEscape : List Char → Except Fault (List Char × List Char)
  | [] => .error .truncated
  | 'u' :: cs => (readHexFour cs).map fun (_, rest) => ([], rest)
  | c :: cs => if (plainEscape? c).isSome then .ok ([], cs) else .error .malformed

/-- The characters of a string up to its closing quote, where `escape` reads what follows a
backslash. -/
def readChars (escape : List Char → Except Fault (List Char × List Char)) :
    (fuel : Nat) → (done : List Char) → List Char → Except Fault (String × List Char)
  | 0, _, _ => .error .malformed
  | _ + 1, _, [] => .error .truncated
  | _ + 1, done, '"' :: rest => .ok (String.ofList done.reverse, rest)
  | fuel + 1, done, '\\' :: cs => do
    let (e, rest) ← escape cs
    readChars escape fuel (e ++ done) rest
  | fuel + 1, done, c :: rest =>
    if c.toNat < 0x20 then .error .malformed else readChars escape fuel (c :: done) rest

/-- The rest of a string whose opening quote has been read. Of a string that cannot be read the
fault is given, and how a reader fares who only passes over it: half of a surrogate pair does not
stop that reader, and if it is all that is wrong the text after the string is reached. -/
def readString (fuel : Nat) (cs : List Char) :
    Except (Fault × Except Fault (List Char)) (String × List Char) :=
  match readChars readEscape fuel [] cs with
  | .ok read => .ok read
  | .error f => .error (f, (readChars passEscape fuel [] cs).map (·.2))

/-! ## Numbers -/

/-- The number of a decimal digit. -/
def digitValue (c : Char) : Nat := c.toNat - 48

/-- Digits taken into a 64-bit significand while they fit, and the number of those left out. Once
one has been left out no other is taken, so the significand is a beginning of the number. -/
def takeWhole : (significand skipped : Nat) → List Char → Nat × Nat
  | significand, skipped, [] => (significand, skipped)
  | significand, skipped, c :: cs =>
    let next := significand * 10 + digitValue c
    if skipped = 0 ∧ next < 2 ^ 64 then takeWhole next 0 cs
    else takeWhole significand (skipped + 1) cs

/-- Digits after the point taken in while they fit, and their number; the others have no effect. -/
def takeFraction : (significand used : Nat) → List Char → Nat × Nat
  | significand, used, [] => (significand, used)
  | significand, used, c :: cs =>
    let next := significand * 10 + digitValue c
    if next < 2 ^ 64 then takeFraction next (used + 1) cs else (significand, used)

/-- The number of a sign, digits before the point, digits after it, and an exponent. A number with
neither point nor exponent is whole if it fits; a negative zero is not whole. -/
def numberOf (negative : Bool) (whole : List Char) (fraction : Option (List Char))
    (exponent : Option Int) : Option Number :=
  let (significand, skipped) := takeWhole 0 0 whole
  let real (s : Nat) (e : Int) : Option Number :=
    (Decimal.ofScaled negative s e).map Number.real
  match fraction, exponent with
  | none, none =>
    if skipped = 0 then
      if negative then
        if significand = 0 ∨ 2 ^ 63 < significand then real significand 0
        else (Whole.ofInt? (-significand)).map Number.whole
      else (Whole.ofInt? significand).map Number.whole
    else real significand skipped
  | fraction, exponent =>
    let (significand, used) := takeFraction significand 0 (fraction.getD [])
    real significand (skipped - used + exponent.getD 0)

/-- A fault inside a number: at the end of the text it is truncation to a reader who wants the
number, and malformed to one who passes over it. -/
def numberFault : List Char → Fault
  | [] => .truncated
  | _ => .malformed

/-- The digits at the beginning of a text, and what follows them. -/
def splitDigits (cs : List Char) : List Char × List Char :=
  (cs.takeWhile Char.isDigit, cs.dropWhile Char.isDigit)

/-- The exponent after its mark. -/
def readExponent (cs : List Char) : Except Fault (Int × List Char) :=
  let (negative, cs) := match cs with
    | '-' :: r => (true, r)
    | '+' :: r => (false, r)
    | r => (false, r)
  match splitDigits cs with
  | ([], rest) => .error (numberFault rest)
  | (ds, rest) =>
    let n : Int := Positional.value 10 (ds.map digitValue)
    .ok (if negative then -n else n, rest)

/-- The part of a number after its whole digits. -/
def readFraction (cs : List Char) : Except Fault (Option (List Char) × List Char) :=
  match cs with
  | '.' :: r =>
    match splitDigits r with
    | ([], rest) => .error (numberFault rest)
    | (ds, rest) => .ok (some ds, rest)
  | r => .ok (none, r)

/-- The exponent of a number, if it has one. Its mark is an `e` of either case. -/
def readExponent? (cs : List Char) : Except Fault (Option Int × List Char) :=
  match cs with
  | c :: r =>
    if c = 'e' ∨ c = 'E' then (readExponent r).map fun (n, rest) => (some n, rest)
    else .ok (none, cs)
  | [] => .ok (none, [])

/-- A number, from its sign on. A zero in front of other digits is malformed, and a number that is
too large is read to its end before that is told. -/
def readNumber (cs : List Char) : Except Fault (Option Number × List Char) := do
  let (negative, cs) := match cs with
    | '-' :: r => (true, r)
    | r => (false, r)
  let (whole, rest) := splitDigits cs
  match whole with
  | [] => .error (numberFault rest)
  | '0' :: _ :: _ => .error .malformed
  | whole => do
    let (fraction, rest) ← readFraction rest
    let (exponent, rest) ← readExponent? rest
    return (numberOf negative whole fraction exponent, rest)

/-! ## Values -/

/-- What follows the first letter of a word. -/
def readWord (word : List Char) (d : Draft) (cs : List Char) : Draft × Option (List Char) :=
  match word, cs with
  | [], rest => (d, some rest)
  | _ :: _, [] => (.broken .truncated .truncated, none)
  | w :: ws, c :: rest =>
    if w = c then readWord ws d rest else (.broken .malformed .malformed, none)

mutual

/-- A value that starts here, and the text after it if no fault was met. The fuel bounds the depth
of the recursion and is more than the text has characters to read, so it is never used up. -/
def readValue : (fuel : Nat) → List Char → Draft × Option (List Char)
  | 0, _ => (.broken .malformed .malformed, none)
  | _ + 1, [] => (.broken .truncated .truncated, none)
  | fuel + 1, c :: cs =>
    if c = 'n' then readWord ['u', 'l', 'l'] .null cs
    else if c = 't' then readWord ['r', 'u', 'e'] (.boolean true) cs
    else if c = 'f' then readWord ['a', 'l', 's', 'e'] (.boolean false) cs
    else if c = '"' then
      match readString fuel cs with
      | .ok (s, rest) => (.string s, some rest)
      | .error (_, .ok rest) => (.string none, some rest)
      | .error (f, .error g) => (.broken f g, none)
    else if c = '-' ∨ c.isDigit then
      match readNumber (c :: cs) with
      | .ok (n, rest) => (.number n, some rest)
      | .error f => (.broken f .malformed, none)
    else if c = '[' then
      match skipBlanks cs with
      | [] => (.array [] (some .truncated), none)
      | ']' :: rest => (.array [] none, some rest)
      | cs =>
        let (items, fault, rest) := readItems fuel cs
        (.array items fault, rest)
    else if c = '\x7b' then
      match skipBlanks cs with
      | [] => (.object [] (some .truncated), none)
      | '\x7d' :: rest => (.object [] none, some rest)
      | cs =>
        let (members, fault, rest) := readMembers fuel cs
        (.object members fault, rest)
    else (.broken .malformed .malformed, none)

/-- The items of an array from here on. The fault is that after the last item that could be read, if
the array does not end. -/
def readItems : (fuel : Nat) → List Char → List Draft × Option Fault × Option (List Char)
  | 0, _ => ([], some .malformed, none)
  | fuel + 1, cs =>
    match readValue fuel cs with
    | (d, none) => ([d], none, none)
    | (d, some rest) =>
      match skipBlanks rest with
      | [] => ([d], some .truncated, none)
      | ']' :: rest => ([d], none, some rest)
      | ',' :: rest =>
        let (ds, fault, rest) := readItems fuel (skipBlanks rest)
        (d :: ds, fault, rest)
      | _ => ([d], some .malformed, none)

/-- The members of an object from here on. -/
def readMembers : (fuel : Nat) → List Char →
    List (Except Fault String × Draft) × Option Fault × Option (List Char)
  | 0, _ => ([], some .malformed, none)
  | _ + 1, [] => ([], some .truncated, none)
  | fuel + 1, c :: cs =>
    if c = '"' then
      match readString fuel cs with
      | .ok (key, rest) => readMember fuel (.ok key) (skipBlanks rest)
      | .error (f, .ok rest) => readMember fuel (.error f) (skipBlanks rest)
      | .error (f, .error g) => ([(.error f, .broken f g)], none, none)
    else ([], some .malformed, none)

/-- A member from its colon on, and the members after it. What stands in the place of its value is
kept as a draft of its own. -/
def readMember : (fuel : Nat) → Except Fault String → List Char →
    List (Except Fault String × Draft) × Option Fault × Option (List Char)
  | 0, _, _ => ([], some .malformed, none)
  | _ + 1, key, [] => ([(key, .broken .truncated .truncated)], none, none)
  | fuel + 1, key, ':' :: rest =>
    match readValue fuel (skipBlanks rest) with
    | (d, none) => ([(key, d)], none, none)
    | (d, some rest) =>
      match skipBlanks rest with
      | [] => ([(key, d)], some .truncated, none)
      | '\x7d' :: rest => ([(key, d)], none, some rest)
      | ',' :: rest =>
        let (ms, fault, rest) := readMembers fuel (skipBlanks rest)
        ((key, d) :: ms, fault, rest)
      | _ => ([(key, d)], some .malformed, none)
  | _ + 1, key, _ => ([(key, .broken .malformed .malformed)], none, none)

end

/-- The draft of a text, and the fault of what follows its value. Nothing may follow it but blanks.
-/
def Draft.read (s : String) : Draft × Option Fault :=
  let cs := s.toList
  match readValue (3 * cs.length + 3) (skipBlanks cs) with
  | (d, none) => (d, none)
  | (d, some rest) => (d, if (skipBlanks rest).isEmpty then none else some .malformed)

/-- The value of a text, which must be all that the text holds. Blanks may stand around it. -/
def Value.read (s : String) : Except Fault Value := do
  let (d, after) := Draft.read s
  let v ← d.value
  Draft.ending after
  return v

end Telemetry.Json
