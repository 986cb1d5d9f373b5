import Telemetry.Log
import Telemetry.Log.Pattern
import Telemetry.Text.Blank
import Telemetry.Text.Natural
import Telemetry.Text.Word

/-!
# Directives of the log

A directive is a piece of a log filter. In full it is written

    target[span{field}]=level

where the brackets, the braces, the level or the target may be missing; a word alone is a level if
it can be one, and else a target. Without a level everything is let through.

A directive is read without the blanks around it. Its parts, however, are cut from the text with
them, at the places found without them, and the last part goes on to the end of the text. So a blank
before a word shifts its parts, and one after it belongs to its last part.
-/

namespace Telemetry.Log

/-- The level of a word, in letters of either case, or of a number of one digit. -/
def Level.ofText? (s : String) : Option Level :=
  match Text.naturalBelow? 6 s with
  | some n => all.find? fun l => l.rank = n
  | none => all.find? fun l => l.name == s.map Char.toUpper

/-- A field that a record or a span must have, with the text its value is compared with, if any. -/
structure FieldPattern where
  name : String
  value : Option String
deriving DecidableEq

/-- What a directive is about. -/
structure Scope where
  /-- how the target begins -/
  target : Option String := none
  /-- the name of the span -/
  span : Option String := none
  fields : List FieldPattern := []
deriving DecidableEq

/-- How much is let through in a scope. -/
structure Directive where
  scope : Scope
  level : Level
deriving DecidableEq

/-- Why a text is no directive. -/
inductive Refusal where
  /-- it is not written as one -/
  | form
  /-- its level is none -/
  | level
  /-- the value of its field is compared with what is no usable pattern -/
  | pattern (why : Pattern.Fault)
deriving DecidableEq

/-- The text of a refusal, as it follows the directive in a complaint. -/
def Refusal.message : Refusal → String
  | form => "invalid filter directive"
  | level => "error parsing level filter: expected one of \"off\", \"error\", \"warn\", " ++
      "\"info\", \"debug\", \"trace\", or a number 0-5"
  | pattern why => "invalid field filter: " ++ why.message

namespace Scope

/-- Whether a target begins as the scope demands. -/
def coversTarget (s : Scope) (target : String) : Bool :=
  s.target.all fun t => t.toList.isPrefixOf target.toList

/-- Whether a record lies in the scope, whatever the scope says of spans. -/
def coversRecord (s : Scope) (r : Record) : Bool :=
  s.coversTarget r.target && s.fields.all fun f => r.hasField f.name

/-- Whether a span lies in the scope: it has the name, if one is demanded, and no fields. -/
def coversSpan (s : Scope) (x : Span) : Bool :=
  s.coversTarget x.target && s.span.all (· == x.name) && s.fields.isEmpty

/-- Whether the scope is about records by themselves. -/
def aboutRecords (s : Scope) : Bool := s.span.isNone && s.fields.all fun f => f.value.isNone

/-- Whether the scope is about spans, and so about the records within them. -/
def aboutSpans (s : Scope) : Bool := s.span.isSome || !s.fields.isEmpty

/-- Whether the scope compares the value of a field. -/
def comparesValues (s : Scope) : Bool := s.fields.any fun f => f.value.isSome

end Scope

/-! ## Reading -/

namespace Directive

/-- How a directive without a bracket in front begins. -/
def isInitial (c : Char) : Bool := Text.isWordChar c || c == '_' || c == ':' || c == '-'

/-- The first of the given characters from the place `at` on, with what follows it, and its place
in bytes. -/
def find (marks : List Char) : (place : Nat) → List Char → Nat × List Char
  | place, [] => (place, [])
  | place, c :: cs =>
    if marks.contains c then (place, c :: cs) else find marks (place + c.utf8Size) cs

/-- The part of a text between two places. -/
def cut (text : String) (start stop : Nat) : Except Refusal String :=
  match String.fromUTF8? (text.toUTF8.extract start stop) with
  | some part => .ok part
  | none => .error .form

/-- The part of a text from a place on. -/
def rest (text : String) (start : Nat) : Except Refusal String :=
  cut text start text.utf8ByteSize

/-- The level from a place on, where no text is the widest one. -/
def readLevel (text : String) (place : Nat) : Except Refusal Level := do
  let part ← rest text place
  if part.isEmpty then return .trace
  match Level.ofText? part with
  | some level => return level
  | none => throw .level

/-- A level or a target. -/
def ofWord (word : String) : Directive :=
  match Level.ofText? word with
  | some level => ⟨{}, level⟩
  | none => ⟨{ target := some word }, .trace⟩

/-- What follows the closing bracket. -/
def readTail (text : String) (scope : Scope) (place : Nat) :
    List Char → Except Refusal Directive
  | [] => .ok ⟨scope, .trace⟩
  | '=' :: _ => (readLevel text (place + 1)).map fun level => ⟨scope, level⟩
  | _ => .error .form

/-- The field whose pattern is a text: a name, or a name and a value with an equals sign between
them. -/
def fieldPattern (text : String) : Except Refusal FieldPattern :=
  match text.splitOn "=" with
  | name :: value :: _ =>
    match Pattern.fault? value with
    | none => .ok ⟨name, some value⟩
    | some why => .error (.pattern why)
  | _ => .ok ⟨text, none⟩

/-- What follows the opening brace. -/
def readField (text : String) (scope : Scope) (place : Nat) (cs : List Char) :
    Except Refusal Directive :=
  match find ['\x7d'] place cs with
  | (_, []) => .error .form
  | (stop, _ :: cs) => do
    let part ← cut text place stop
    if part.isEmpty then throw .form
    let field ← fieldPattern part
    match cs with
    | ']' :: cs => readTail text { scope with fields := [field] } (stop + 2) cs
    | _ => throw .form

/-- What follows the opening bracket. -/
def readSpan (text : String) (target : Option String) (place : Nat) (cs : List Char) :
    Except Refusal Directive :=
  match find [']', '\x7b'] place cs with
  | (_, []) => .error .form
  | (stop, mark :: cs) => do
    let name ← cut text place stop
    if mark = ']' then readTail text { target, span := some name } (stop + 1) cs
    else readField text { target, span := if name.isEmpty then none else some name } (stop + 1) cs

/-- Read a directive. -/
def read (text : String) : Except Refusal Directive :=
  match Text.trimmed text.toList with
  | [] => .error .form
  | '[' :: cs => readSpan text none 1 cs
  | c :: cs =>
    if !isInitial c then .error .form
    else match find ['=', '['] 0 (c :: cs) with
    | (_, []) => (rest text 0).map ofWord
    | (stop, mark :: cs) => do
      let target ← cut text 0 stop
      if mark = '[' then readSpan text (some target) (stop + 1) cs
      else return ⟨{ target := some target }, ← readLevel text (stop + 1)⟩

end Directive

end Telemetry.Log
