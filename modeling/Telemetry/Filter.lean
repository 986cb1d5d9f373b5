import Telemetry.Document

/-!
# Filters and updates

A filter chooses documents by their fields. The in-memory store evaluates it, the SQL store writes
it as a condition.

A field that holds an array also matches a value that is one of its items, unless the value is an
array itself.
-/

namespace Telemetry

/-- One end of a range, with its number or without it, or no end at all. -/
inductive Bound where
  | included (n : Int64)
  | excluded (n : Int64)
  | unbounded
deriving DecidableEq

namespace Bound

/-- Whether a number is on the inner side of a lower bound; every number is if there is none. The
bounds are compared as signed words, as the times in documents are. -/
def admitsAbove : Bound → Int64 → Bool
  | included n, v => n ≤ v
  | excluded n, v => n < v
  | unbounded, _ => true

/-- Whether a number is on the inner side of an upper bound; every number is if there is none. -/
def admitsBelow : Bound → Int64 → Bool
  | included n, v => v ≤ n
  | excluded n, v => v < n
  | unbounded, _ => true

end Bound

/-- A condition on documents. There is no negation and no alternative but that between values of one
field, so every filter can be written as a condition of either store. -/
inductive Filter where
  /-- every document -/
  | all
  /-- the field has the value -/
  | eq (field : String) (value : Json.Value)
  /-- the field is a whole number between the bounds -/
  | range (field : String) (lower upper : Bound)
  /-- the field has one of the values -/
  | among (field : String) (values : List Json.Value)
  /-- every part holds -/
  | and (parts : List Filter)

namespace Filter

/-- `f` and also `g`. A conjunction takes `g` as one more part, so conditions that are added one
after another stay in one flat list. -/
def also : Filter → Filter → Filter
  | and parts, g => and (parts ++ [g])
  | f, g => and [f, g]

/-- Whether a stored value counts as `wanted`. An array counts as each of its items, which is how a
descriptor is found under one of its labels; only as a whole does it count as another array. -/
def valueMatches (stored wanted : Json.Value) : Bool :=
  match stored with
  | .array items => if wanted.isArray then stored.same wanted else items.any fun v => v.same wanted
  | _ => stored.same wanted

mutual

/-- Whether a document satisfies a filter. A missing field satisfies no condition on it, and neither
does a value that is no whole number satisfy a range, not even one without bounds. -/
def holds : Filter → Document → Bool
  | all, _ => true
  | eq field value, d => (d.get? field).any fun v => valueMatches v value
  | range field lower upper, d =>
    ((d.get? field).bind Json.Value.asInt64?).any fun n =>
      lower.admitsAbove n && upper.admitsBelow n
  | among field values, d => (d.get? field).any fun v => values.any (valueMatches v)
  | and parts, d => allHold parts d

/-- Whether a document satisfies every one of some filters, as it must those of a conjunction. -/
def allHold : List Filter → Document → Bool
  | [], _ => true
  | f :: fs, d => holds f d && allHold fs d

end

end Filter

/-- A change to one document. Neither kind changes its id, which stays the key of the document, and
neither can remove the document. -/
inductive Update where
  /-- put another document in its place -/
  | replace (d : Document)
  /-- set the given fields and leave the others -/
  | set (fields : Document)

/-- The document after an update, before it is put under its id again. Of the old document nothing
is kept when it is replaced. -/
def Update.apply : Update → Document → Document
  | replace d, _ => d
  | set fields, d => d.insertAll fields

end Telemetry
