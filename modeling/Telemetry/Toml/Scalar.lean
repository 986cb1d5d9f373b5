import Telemetry.Decimal.Scaled
import Telemetry.Text.CodePoint
import Telemetry.Toml.Tree

/-!
# Strings, numbers and times of TOML

Every reader takes the text from where its value starts and gives the value with the text after it,
or nothing if no value of the kind is written there.
-/

namespace Telemetry.Toml

/-- A blank within a line. Line ends are not blanks. -/
def isBlank (c : Char) : Bool := c == ' ' || c == '\t'

/-- The text after the blanks that are here. -/
def skipBlanks (cs : List Char) : List Char := cs.dropWhile isBlank

/-- The text after a line end, if one is here. -/
def lineEnd? : List Char → Option (List Char)
  | '\n' :: rest => some rest
  | '\r' :: '\n' :: rest => some rest
  | _ => none

/-- A character that may stand in a comment or, but for its quote, in a literal string: a tab,
visible ASCII and the space, or anything beyond ASCII. -/
def isPlain (c : Char) : Bool :=
  c == '\t' || (0x20 ≤ c.toNat && c.toNat ≤ 0x7e) || 0x80 ≤ c.toNat

/-! ## Strings -/

/-- A character in `width` hex digits. -/
def hexScalar (width : Nat) (cs : List Char) : Option (Char × List Char) := do
  let digits := cs.take width
  if digits.length ≠ width then none
  let c ← Text.hexChar? digits
  return (c, cs.drop width)

/-- The character of an escape, after its backslash. -/
def readEscape : List Char → Option (Char × List Char)
  | 'b' :: rest => some ('\x08', rest)
  | 't' :: rest => some ('\t', rest)
  | 'n' :: rest => some ('\n', rest)
  | 'f' :: rest => some ('\x0c', rest)
  | 'r' :: rest => some ('\r', rest)
  | '"' :: rest => some ('"', rest)
  | '\\' :: rest => some ('\\', rest)
  | 'u' :: rest => hexScalar 4 rest
  | 'U' :: rest => hexScalar 8 rest
  | _ => none

/-- A basic string on one line, after its opening quote. -/
def readBasic : (fuel : Nat) → (done : List Char) → List Char → Option (String × List Char)
  | 0, _, _ => none
  | _ + 1, _, [] => none
  | _ + 1, done, '"' :: rest => some (String.ofList done.reverse, rest)
  | fuel + 1, done, '\\' :: rest => do
    let (c, rest) ← readEscape rest
    readBasic fuel (c :: done) rest
  | fuel + 1, done, c :: rest => if isPlain c then readBasic fuel (c :: done) rest else none

/-- A literal string on one line, after its opening quote. -/
def readLiteral : (done : List Char) → List Char → Option (String × List Char)
  | _, [] => none
  | done, '\'' :: rest => some (String.ofList done.reverse, rest)
  | done, c :: rest => if isPlain c then readLiteral (c :: done) rest else none

/-- Skip blanks and line ends. -/
def skipLines : (fuel : Nat) → List Char → List Char
  | 0, cs => cs
  | fuel + 1, cs =>
    match lineEnd? (skipBlanks cs) with
    | some rest => skipLines fuel rest
    | none => skipBlanks cs

/-- At a run of quotes inside a string of several lines: three of them close it, and up to two
before those belong to it. The result is the number that belongs, whether the string is closed, and
the text after the run. -/
def closing (quote : Char) (cs : List Char) : Nat × Bool × List Char :=
  let run := (cs.takeWhile (· == quote)).length
  if run < 3 then (run, false, cs.drop run)
  else
    let inside := min (run - 3) 2
    (inside, true, cs.drop (inside + 3))

/-- A basic string of several lines, after its opening quotes. A backslash at the end of a line
removes the line end and the blank text after it. -/
def readBasicLines : (fuel : Nat) → (done : List Char) → List Char →
    Option (String × List Char)
  | 0, _, _ => none
  | _ + 1, _, [] => none
  | fuel + 1, done, '"' :: rest =>
    let (inside, closed, rest) := closing '"' ('"' :: rest)
    let done := List.replicate inside '"' ++ done
    if closed then some (String.ofList done.reverse, rest) else readBasicLines fuel done rest
  | fuel + 1, done, '\\' :: rest =>
    match readEscape rest with
    | some (c, rest) => readBasicLines fuel (c :: done) rest
    | none =>
      match lineEnd? (skipBlanks rest) with
      | some after => readBasicLines fuel done (skipLines fuel after)
      | none => none
  | fuel + 1, done, c :: rest =>
    match lineEnd? (c :: rest) with
    | some rest => readBasicLines fuel ('\n' :: done) rest
    | none => if isPlain c then readBasicLines fuel (c :: done) rest else none

/-- A literal string of several lines, after its opening quotes. -/
def readLiteralLines : (fuel : Nat) → (done : List Char) → List Char →
    Option (String × List Char)
  | 0, _, _ => none
  | _ + 1, _, [] => none
  | fuel + 1, done, '\'' :: rest =>
    let (inside, closed, rest) := closing '\'' ('\'' :: rest)
    let done := List.replicate inside '\'' ++ done
    if closed then some (String.ofList done.reverse, rest) else readLiteralLines fuel done rest
  | fuel + 1, done, c :: rest =>
    match lineEnd? (c :: rest) with
    | some rest => readLiteralLines fuel ('\n' :: done) rest
    | none => if isPlain c then readLiteralLines fuel (c :: done) rest else none

/-- A line end directly after the opening quotes does not belong to the string. -/
def dropFirstLineEnd (cs : List Char) : List Char := (lineEnd? cs).getD cs

/-- A string of any kind. -/
def readString : List Char → Option (String × List Char)
  | '"' :: '"' :: '"' :: rest => readBasicLines (rest.length + 1) [] (dropFirstLineEnd rest)
  | '"' :: rest => readBasic (rest.length + 1) [] rest
  | '\'' :: '\'' :: '\'' :: rest => readLiteralLines (rest.length + 1) [] (dropFirstLineEnd rest)
  | '\'' :: rest => readLiteral [] rest
  | _ => none

/-! ## Numbers -/

/-- The value of a decimal digit. -/
def digitValue (c : Char) : Nat := c.toNat - 48

/-- Digits with single underscores between them. -/
def readDigits (isDigit : Char → Bool) : List Char → Option (List Char × List Char)
  | [] => none
  | c :: cs => if isDigit c then some (more [c] cs) else none
where
  more (done : List Char) : List Char → List Char × List Char
    | [] => (done.reverse, [])
    | '_' :: d :: rest =>
      if isDigit d then more (d :: done) rest else (done.reverse, '_' :: d :: rest)
    | d :: rest => if isDigit d then more (d :: done) rest else (done.reverse, d :: rest)

/-- Whether a minus sign is here, with the text after the sign. No sign is a plus sign. -/
def readSign : List Char → Bool × List Char
  | '-' :: rest => (true, rest)
  | '+' :: rest => (false, rest)
  | cs => (false, cs)

/-- Decimal digits without a leading zero, or a single zero. -/
def readWhole : List Char → Option (List Char × List Char)
  | '0' :: rest => some (['0'], rest)
  | cs => readDigits Char.isDigit cs

/-- A number in another base, after the mark of the base. -/
def readBased (base : Nat) (isDigit : Char → Bool) (cs : List Char) :
    Option (Tree × List Char) := do
  let (ds, rest) ← readDigits isDigit cs
  let values ← Text.hexValues? ds
  let n := Positional.value base values
  if 2 ^ 63 ≤ n then none
  return (.integer n, rest)

/-- A whole number of the signed 64-bit range. -/
def readInteger : List Char → Option (Tree × List Char)
  | '0' :: 'x' :: rest => readBased 16 (fun c => (Text.hexValue? c).isSome) rest
  | '0' :: 'o' :: rest => readBased 8 (fun c => '0' ≤ c && c ≤ '7') rest
  | '0' :: 'b' :: rest => readBased 2 (fun c => c == '0' || c == '1') rest
  | cs => do
    let (negative, rest) := readSign cs
    let (ds, rest) ← readWhole rest
    let n := Positional.value 10 (ds.map digitValue)
    if negative then
      if 2 ^ 63 < n then none
      return (.integer (-n), rest)
    else
      if 2 ^ 63 ≤ n then none
      return (.integer n, rest)

/-- Whether `digits * 10 ^ e` rounds to a finite floating-point number. Far beyond the range on
either side the digits do not matter. -/
def isFinite (digits : List Char) (e : Int) : Bool :=
  let significant := digits.dropWhile (· == '0')
  let lead := significant.length + e
  if significant.isEmpty || lead < 300 then true
  else if 320 < lead then false
  else
    let n := Positional.value 10 (significant.map digitValue)
    if 0 ≤ e then (Decimal.Binary64.ofNat (n * 10 ^ e.toNat)).isSome
    else (Decimal.Binary64.nearest false (n * 2 ^ 1074) (10 ^ (-e).toNat)).isSome

/-- The digits after a point. There must be one at least. -/
def readFraction : List Char → Option (List Char × List Char)
  | '.' :: rest => readDigits Char.isDigit rest
  | _ => none

/-- The sign and digits of an exponent. It may begin with zeros, other than the whole part. -/
def readExponent : List Char → Option ((Bool × List Char) × List Char)
  | c :: rest =>
    if c = 'e' ∨ c = 'E' then
      let (negative, rest) := readSign rest
      (readDigits Char.isDigit rest).map fun (ds, rest) => ((negative, ds), rest)
    else none
  | [] => none

/-- The exponent written by digits; beyond any that matters it is cut off. -/
def exponentValue (negative : Bool) (ds : List Char) : Int :=
  let significant := ds.dropWhile (· == '0')
  let n : Int := if 9 < significant.length then 10 ^ 9
    else Positional.value 10 (significant.map digitValue)
  if negative then -n else n

/-- A number with a point, an exponent, or both. A positive one must not be too large. -/
def readFloat (cs : List Char) : Option (Tree × List Char) := do
  let (negative, rest) := readSign cs
  match rest with
  | 'i' :: 'n' :: 'f' :: rest => return (.float "inf", rest)
  | 'n' :: 'a' :: 'n' :: rest => return (.float "nan", rest)
  | _ =>
    let (whole, rest) ← readWhole rest
    let fraction := readFraction rest
    let rest := (fraction.map (·.2)).getD rest
    let exponent := readExponent rest
    let rest := (exponent.map (·.2)).getD rest
    if fraction.isNone && exponent.isNone then none
    let after := (fraction.map (·.1)).getD []
    let e := (exponent.map fun x => exponentValue x.1.1 x.1.2).getD 0
    if !negative && !isFinite (whole ++ after) (e - after.length) then none
    return (.float (String.ofList (cs.take (cs.length - rest.length))), rest)

/-! ## Dates and times -/

/-- Exactly `n` digits, as a number. -/
def readFixed (n : Nat) (cs : List Char) : Option (Nat × List Char) :=
  let ds := cs.take n
  if ds.length = n ∧ ds.all Char.isDigit then
    some (Positional.value 10 (ds.map digitValue), cs.drop n)
  else none

/-- Exactly `n` digits of a number between two bounds. -/
def readBetween (n low high : Nat) (cs : List Char) : Option (Nat × List Char) := do
  let (v, rest) ← readFixed n cs
  if low ≤ v ∧ v ≤ high then some (v, rest) else none

/-- The text after a character that must be here. -/
def expect (c : Char) : List Char → Option (List Char)
  | d :: rest => if c = d then some rest else none
  | [] => none

/-- How many days a month has, by the rule of leap years. -/
def daysOf (year month : Nat) : Nat :=
  if month = 2 then
    if year % 4 = 0 ∧ (year % 100 ≠ 0 ∨ year % 400 = 0) then 29 else 28
  else if month = 4 ∨ month = 6 ∨ month = 9 ∨ month = 11 then 30
  else 31

/-- A date with its month and day in range. Only the text after it is needed, for a date is kept as
it is written. -/
def readDate (cs : List Char) : Option (List Char) := do
  let (year, rest) ← readFixed 4 cs
  let rest ← expect '-' rest
  let (month, rest) ← readBetween 2 1 12 rest
  let rest ← expect '-' rest
  let (_, rest) ← readBetween 2 1 (daysOf year month) rest
  return rest

/-- The text after the fraction of a second. A point without a digit is left where it is. -/
def skipSecondFraction : List Char → List Char
  | '.' :: d :: rest => if d.isDigit then rest.dropWhile Char.isDigit else '.' :: d :: rest
  | cs => cs

/-- A time of day. The second may be 60, as it is in a leap second. -/
def readTime (cs : List Char) : Option (List Char) := do
  let (_, rest) ← readBetween 2 0 23 cs
  let rest ← expect ':' rest
  let (_, rest) ← readBetween 2 0 59 rest
  let rest ← expect ':' rest
  let (_, rest) ← readBetween 2 0 60 rest
  return skipSecondFraction rest

/-- The offset of a time from the universal one. -/
def readOffset : List Char → Option (List Char)
  | 'Z' :: rest => some rest
  | 'z' :: rest => some rest
  | c :: rest =>
    if c = '+' ∨ c = '-' then do
      let (_, rest) ← readBetween 2 0 23 rest
      let rest ← expect ':' rest
      let (_, rest) ← readBetween 2 0 59 rest
      return rest
    else none
  | [] => none

/-- The time after a date and its separator, with an offset if there is one. -/
def readTimeOfDate : List Char → Option (List Char)
  | c :: rest =>
    if c = 'T' ∨ c = 't' ∨ c = ' ' then
      (readTime rest).map fun rest => (readOffset rest).getD rest
    else none
  | [] => none

/-- A date, a time, or a date with a time. -/
def readMoment (cs : List Char) : Option (Tree × List Char) :=
  let after := match readDate cs with
    | some rest => some ((readTimeOfDate rest).getD rest)
    | none => readTime cs
  after.map fun rest => (.moment (String.ofList (cs.take (cs.length - rest.length))), rest)

/-- A number or a moment. The longer forms are tried first, since a date and a fraction both begin
as a whole number. -/
def readNumeric (cs : List Char) : Option (Tree × List Char) :=
  match readMoment cs with
  | some r => some r
  | none =>
    match readFloat cs with
    | some r => some r
    | none => readInteger cs

end Telemetry.Toml
