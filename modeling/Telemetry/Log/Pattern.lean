import Telemetry.Log.Pattern.CharSet
import Telemetry.Text.Word

/-!
# Patterns of field values

The value of a field is compared with a number or with a regular expression. A pattern is only known
by whether it can be used: for one that can there would be an automaton that reads texts byte by
byte, and that automaton has no tables of scripts or cases.

A pattern stands between braces, so a brace that is opened in it is never closed, and no part can be
repeated a given number of times.
-/

namespace Telemetry.Log.Pattern

/-- Why a pattern cannot be used. -/
inductive Fault where
  /-- it is no regular expression or needs tables -/
  | malformed
  /-- it asks for edges of words of any script -/
  | wordEdge
deriving DecidableEq

/-- The text of a fault. -/
def Fault.message : Fault → String
  | malformed => "error building NFA"
  | wordEdge => "unsupported regex feature for DFAs: cannot build DFAs for regexes with Unicode " ++
      "word boundaries; switch to ASCII word boundaries, or heuristically enable Unicode word " ++
      "boundaries or use a different regex engine"

/-! ## Numbers -/

/-- The text after some digits, if there are any. -/
def afterDigits? (cs : List Char) : Option (List Char) :=
  if (cs.head?.map Char.isDigit).getD false then some (cs.dropWhile Char.isDigit) else none

/-- Whether a text is the exponent of a number or nothing. -/
def isExponent : List Char → Bool
  | [] => true
  | c :: cs =>
    (c == 'e' || c == 'E') && (match cs with
      | '+' :: r | '-' :: r => afterDigits? r
      | r => afterDigits? r) == some []

/-- Whether a text is a number, with or without a point and an exponent, or one of the words for
what is not finite. -/
def isNumber (cs : List Char) : Bool :=
  let cs := match cs with
    | '+' :: r | '-' :: r => r
    | r => r
  ["inf", "infinity", "nan"].contains ((String.ofList cs).map Char.toLower) ||
    match afterDigits? cs with
    | some ('.' :: r) => isExponent (r.dropWhile Char.isDigit)
    | some r => isExponent r
    | none =>
      match cs with
      | '.' :: r => ((afterDigits? r).map isExponent).getD false
      | _ => false

/-! ## Modes -/

/-- The letters of settings, and the sign before those that are turned off. -/
def settingLetters : List Char := ['-', 'i', 'm', 's', 'U', 'u', 'R', 'x']

/-- Settings up to the bracket that closes them or the colon before a group, which is given with
the text after it. No letter is written twice, and the last one is not the sign. -/
def readSettings : (done : List Char) → List Char → Option (List Char × Char × List Char)
  | _, [] => none
  | done, c :: cs =>
    if c = ':' ∨ c = ')' then
      if done.head? = some '-' then none else some (done.reverse, c, cs)
    else if settingLetters.contains c && !done.contains c then readSettings (c :: done) cs
    else none

/-- A mode with some settings changed. -/
def Mode.change (m : Mode) (settings : List Char) : Mode :=
  let (on, off) := settings.span (· != '-')
  let now (letter : Char) (old : Bool) := (old || on.contains letter) && !off.contains letter
  { caseless := now 'i' m.caseless, unicode := now 'u' m.unicode, spaced := now 'x' m.spaced }

/-- Whether a character of its own can be taken in a mode. -/
def Mode.takes (m : Mode) : Escape → Bool
  | .byte c => if m.unicode then !m.caseless else c.toNat < 0x80
  | .character _ => !(m.unicode && m.caseless)
  | .kind negated => !m.unicode && !negated
  | .border | .wordEdge => true

/-! ## Groups -/

/-- A part of a pattern. -/
inductive Part where
  /-- settings, which cannot be repeated -/
  | settings
  | term (height : Nat)

/-- How deep a part is nested. -/
def Part.height : Part → Nat
  | settings => 0
  | term h => h

/-- What has been read of a group that is still open. The whole pattern counts as one. -/
structure Group where
  mode : Mode := {}
  /-- the heights of the branches before the last bar -/
  branches : List Nat := []
  /-- the parts of the current branch, the last one first -/
  parts : List Part := []

namespace Group

/-- Add a part to the current branch. -/
def add (g : Group) (p : Part) : Group := { g with parts := p :: g.parts }

/-- Begin another branch. -/
def split (g : Group) : Group :=
  { g with branches := joinedHeight (g.parts.map (·.height)) :: g.branches, parts := [] }

/-- How deep the group is nested, the branch that is not ended included. -/
def height (g : Group) : Nat := joinedHeight g.split.branches

/-- Repeat the last part. -/
def repeatLast (g : Group) : Option Group :=
  match g.parts with
  | .term h :: parts => some { g with parts := .term (h + 1) :: parts }
  | _ => none

end Group

/-- The deepest nesting of a pattern. -/
def maxHeight : Nat := 250

/-- What has been read of a pattern. -/
structure Progress where
  /-- the innermost open group -/
  group : Group := {}
  /-- the groups around it, the outermost last -/
  outer : List Group := []
  /-- the names given to groups -/
  names : List String := []
  /-- whether the edge of a word of any script has been asked for -/
  wordEdge : Bool := false

namespace Progress

/-- Add a part to the innermost group. -/
def add (p : Progress) (part : Part) : Progress := { p with group := p.group.add part }

/-- Begin a group, in which a mode holds. -/
def enter (p : Progress) (m : Mode) : Progress :=
  { p with group := { mode := m }, outer := p.group :: p.outer }

/-- End the innermost group. -/
def leave (p : Progress) : Option Progress :=
  match p.outer with
  | [] => none
  | g :: outer => some { p with group := g.add (.term (p.group.height + 1)), outer }

/-- A character of a pattern that stands for itself, or an escape. -/
def take (p : Progress) (e : Escape) : Option Progress :=
  if p.group.mode.takes e then
    let edge := match e with
      | .wordEdge => p.group.mode.unicode
      | _ => false
    some { p.add (.term 0) with wordEdge := p.wordEdge || edge }
  else none

/-- The name of a group, up to its closing bracket. No two groups have the same one. -/
def readName (p : Progress) (cs : List Char) : Option (Progress × List Char) :=
  match cs.span (· != '>') with
  | (c :: name, '>' :: rest) =>
    let fits (d : Char) := Text.isWordChar d || ['_', '.', '[', ']'].contains d
    let s := String.ofList (c :: name)
    if (c == '_' || Text.isLetter c) && name.all fits && !p.names.contains s then
      some ({ p.enter p.group.mode with names := s :: p.names }, rest)
    else none
  | _ => none

/-- What follows an opening bracket: a group, or settings for the rest of this one. -/
def readGroup (p : Progress) (cs : List Char) : Option (Progress × List Char) :=
  let mode := p.group.mode
  match mode.skip cs with
  | '?' :: 'P' :: '<' :: rest | '?' :: '<' :: rest => p.readName rest
  | '?' :: rest => do
    let (settings, closing, rest) ← readSettings [] rest
    let mode := mode.change settings
    if closing = ':' then return (p.enter mode, rest)
    if settings.isEmpty then none
    return ({ p with group := { p.group.add .settings with mode } }, rest)
  | rest => some (p.enter mode, rest)

/-- One part of a pattern or one sign between parts. -/
def next (p : Progress) (c : Char) (cs : List Char) : Option (Progress × List Char) :=
  let mode := p.group.mode
  match c with
  | '(' => p.readGroup cs
  | ')' => p.leave.map fun p => (p, cs)
  | '|' => some ({ p with group := p.group.split }, cs)
  | '[' => (CharSet.read mode cs).map fun (s, rest) => (p.add (.term s.height), rest)
  | '*' | '+' | '?' => do
    let group ← p.group.repeatLast
    let rest := match cs with
      | '?' :: rest => rest
      | rest => rest
    return ({ p with group }, rest)
  | '\x7b' => none
  | '.' => if mode.unicode then some (p.add (.term 0), cs) else none
  | '^' | '$' => some (p.add (.term 0), cs)
  | '\\' => do
    let (e, rest) ← readEscape mode cs
    return (← p.take e, rest)
  | c => (p.take (.character c)).map fun p => (p, cs)

/-- Read a pattern to its end. -/
def finish : (fuel : Nat) → Progress → List Char → Option Progress
  | 0, _, _ => none
  | fuel + 1, p, cs =>
    match p.group.mode.skip cs with
    | [] => if p.outer.isEmpty && p.group.height ≤ maxHeight then some p else none
    | c :: cs => do
      let (p, rest) ← p.next c cs
      finish fuel p rest

end Progress

/-- What is wrong with a pattern, if anything. -/
def fault? (text : String) : Option Fault :=
  let cs := text.toList
  if isNumber cs then none
  else match Progress.finish (cs.length + 1) {} cs with
  | none => some .malformed
  | some p => if p.wordEdge then some .wordEdge else none

end Telemetry.Log.Pattern
