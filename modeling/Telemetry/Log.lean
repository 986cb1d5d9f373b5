import Telemetry.Json.Printer

/-!
# The log

A log record has a level, the target it belongs to, and fields. It is written within spans, each of
which stands for a piece of work with a name and a target of its own. Which records are written is
decided by a filter.
-/

namespace Telemetry.Log

/-- How much a record matters, or how much a filter lets through. No record is of the level `off`,
which lets nothing through. -/
inductive Level where
  | off
  | error
  | warn
  | info
  | debug
  | trace
deriving DecidableEq

namespace Level

/-- The levels, each after those that matter more. -/
def all : List Level := [off, error, warn, info, debug, trace]

/-- The place of a level in `all`: the more of the others it lets through, the higher. -/
def rank : Level → Nat
  | off => 0
  | error => 1
  | warn => 2
  | info => 3
  | debug => 4
  | trace => 5

/-- The name of a level, as it stands in a record that is printed. -/
def name : Level → String
  | off => "OFF"
  | error => "ERROR"
  | warn => "WARN"
  | info => "INFO"
  | debug => "DEBUG"
  | trace => "TRACE"

/-- Whether what is let through at this level takes in what is written at the other. -/
def lets (most level : Level) : Bool := level.rank ≤ most.rank

/-- The level that lets more through. -/
def wider (a b : Level) : Level := if a.lets b then a else b

end Level

/-- A piece of work in the course of which records are written. Spans carry no fields, and all are
of the level `info`. -/
structure Span where
  name : String
  target : String
deriving DecidableEq

/-- The level of a span, which is the same for all. -/
def Span.level : Level := .info

/-- A record of the log. -/
structure Record where
  level : Level
  target : String
  fields : List (String × Json.Value)
  /-- the pieces of work in the course of which it is written -/
  within : List Span := []

namespace Record

/-- A record with a message and nothing else. -/
def plain (level : Level) (target message : String) : Record :=
  { level, target, fields := [("message", .string message)] }

/-- A record with a message, written in the course of the target's own piece of work `name`. -/
def inSpan (name : String) (level : Level) (target message : String) : Record :=
  { plain level target message with within := [⟨name, target⟩] }

/-- Whether a record has a field of some name, which a filter may ask for. -/
def hasField (r : Record) (name : String) : Bool := r.fields.any fun f => f.1 == name

/-- A record as the object that is printed for it, on a line of its own. The spans are not printed.
-/
def toJson (r : Record) : Json.Value :=
  .object [("level", .string r.level.name), ("fields", .object r.fields),
    ("target", .string r.target)]

end Record

end Telemetry.Log
