import Telemetry.Log.Pattern.Escape

/-!
# Bracketed sets of characters

A set of characters is written in square brackets. It consists of characters, ranges, named sets and
sets in brackets of their own, and between such lists may stand the operators `&&`, `--` and `~~`,
which are applied from left to right.

Whether a set may be written depends on the mode. No table of cases is at hand, so no character can
be taken without regard to its case in a text of characters; and a set of bytes must be a set of
ASCII characters.
-/

namespace Telemetry.Log.Pattern

/-- How deep parts that stand together in order are nested: together they are one level deeper than
the deepest of them, unless there is only one. -/
def joinedHeight : List Nat → Nat
  | [] => 0
  | [h] => h
  | h :: hs => hs.foldl max h + 1

/-- A set of characters. -/
structure CharSet where
  /-- how deep it is nested -/
  height : Nat := 0
  /-- whether the bytes beyond ASCII belong to it: none or all of them do -/
  wide : Bool := false

namespace CharSet

/-- An operator between two sets. -/
inductive Operator where
  | intersection
  | difference
  | symmetricDifference

/-- The set made of two by an operator, one level deeper than the deeper one. -/
def Operator.apply (o : Operator) (a b : CharSet) : CharSet where
  height := max a.height b.height + 1
  wide := match o with
    | .intersection => a.wide && b.wide
    | .difference => a.wide && !b.wide
    | .symmetricDifference => a.wide != b.wide

/-- The union of sets that stand side by side. -/
def union (sets : List CharSet) : CharSet where
  height := joinedHeight (sets.map (·.height))
  wide := sets.any (·.wide)

/-- The set of one character. -/
def single (m : Mode) (c : Char) : Option CharSet :=
  if m.unicode then (if m.caseless then none else some {})
  else if c.toNat < 0x80 then some {} else none

/-- The names of the named sets. -/
def names : List String := [
  "alnum", "alpha", "ascii", "blank", "cntrl", "digit", "graph", "lower", "print", "punct", "space",
  "upper", "word", "xdigit"]

/-- A named set whose opening bracket has been read, and whether it stands for the others. -/
def readName : List Char → Option (Bool × List Char)
  | ':' :: cs =>
    let (negated, cs) := match cs with
      | '^' :: r => (true, r)
      | r => (false, r)
    match cs.span (· != ':') with
    | (name, ':' :: ']' :: rest) =>
      if names.contains (String.ofList name) then some (negated, rest) else none
    | _ => none
  | _ => none

/-- A named set in a mode. -/
def named (m : Mode) (negated : Bool) : Option CharSet :=
  if m.unicode && m.caseless then none else some { wide := negated }

/-- One end of a range, or an item that is none. -/
def readEnd (m : Mode) : List Char → Option (Escape × List Char)
  | [] => none
  | '\\' :: cs => readEscape m cs
  | c :: cs => some (.character c, cs)

/-- Whether a minus sign, after which the text goes on here, stands for itself: it does before
another one and before the closing bracket, also behind the sign of a comment. -/
def minusIsPlain (m : Mode) (cs : List Char) : Bool :=
  let dropBlanks (cs : List Char) := if m.spaced then cs.dropWhile Text.isBlank else cs
  let next := match dropBlanks cs with
    | '#' :: r => if m.spaced then dropBlanks r else '#' :: r
    | r => r
  next.head? == some ']' || next.head? == some '-'

/-- The set of an escape. -/
def ofEscape (m : Mode) : Escape → Option CharSet
  | .character c | .byte c => single m c
  | .kind negated => if m.unicode || negated then none else some {}
  | .border | .wordEdge => none

/-- A character or a range of characters. -/
def readRange (m : Mode) (cs : List Char) : Option (CharSet × List Char) := do
  let (first, rest) ← readEnd m cs
  match m.skip rest with
  | [] => none
  | '-' :: rest =>
    if minusIsPlain m rest then return (← ofEscape m first, '-' :: rest)
    let (last, rest) ← readEnd m (m.skip rest)
    let a ← first.char?
    let b ← last.char?
    if b < a then none
    let _ ← single m a
    return (← single m b, rest)
  | rest => return (← ofEscape m first, rest)

/-- What has been read of a set that is still open. -/
structure Unclosed where
  /-- the sets since the last operator -/
  sets : List CharSet := []
  /-- what stands before the last operator, and the operator -/
  before : Option (CharSet × Operator) := none
  /-- whether there have been nothing but minus signs -/
  atStart : Bool := true

namespace Unclosed

/-- Add a set, after which a minus sign makes a range. -/
def add (p : Unclosed) (s : CharSet) : Unclosed := { p with sets := s :: p.sets, atStart := false }

/-- The set so far. -/
def whole (p : Unclosed) : CharSet :=
  match p.before with
  | some (s, o) => o.apply s (union p.sets)
  | none => union p.sets

/-- Go on after an operator. -/
def follow (p : Unclosed) (o : Operator) : Unclosed where
  before := some (p.whole, o)
  atStart := false

end Unclosed

/-- A set between its brackets, which may be turned into its complement. -/
def close (m : Mode) (negated : Bool) (s : CharSet) : Option CharSet :=
  if !m.unicode && s.wide != negated then none else some { height := s.height + 1 }

mutual

/-- A set from behind its opening bracket. -/
def readOpen (m : Mode) : (fuel : Nat) → List Char → Option (CharSet × List Char)
  | 0, _ => none
  | fuel + 1, cs => do
    let (negated, cs) := match m.skip cs with
      | '^' :: r => (true, r)
      | r => (false, r)
    let (s, rest) ← readRest m fuel {} cs
    return (← close m negated s, rest)

/-- What follows in an open set. A minus sign in front stands for itself, and so does a closing
bracket in front. -/
def readRest (m : Mode) : (fuel : Nat) → Unclosed → List Char → Option (CharSet × List Char)
  | 0, _, _ => none
  | fuel + 1, p, cs =>
    match m.skip cs with
    | [] => none
    | '[' :: cs =>
      match readName cs with
      | some (negated, rest) => do readRest m fuel (p.add (← named m negated)) rest
      | none => do
        let (s, rest) ← readOpen m fuel cs
        readRest m fuel (p.add s) rest
    | ']' :: cs =>
      if p.atStart && p.sets.isEmpty then do readRest m fuel (p.add (← single m ']')) cs
      else some (p.whole, cs)
    | '&' :: '&' :: cs => readRest m fuel (p.follow .intersection) cs
    | '~' :: '~' :: cs => readRest m fuel (p.follow .symmetricDifference) cs
    | '-' :: cs =>
      if p.atStart then do readRest m fuel { p.add (← single m '-') with atStart := true } cs
      else match cs with
        | '-' :: cs => readRest m fuel (p.follow .difference) cs
        | cs => do
          let (s, rest) ← readRange m ('-' :: cs)
          readRest m fuel (p.add s) rest
    | cs => do
      let (s, rest) ← readRange m cs
      readRest m fuel (p.add s) rest

end

/-- A set whose opening bracket has been read. -/
def read (m : Mode) (cs : List Char) : Option (CharSet × List Char) :=
  readOpen m (2 * cs.length + 2) cs

end CharSet

end Telemetry.Log.Pattern
