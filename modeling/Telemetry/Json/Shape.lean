import Telemetry.Json.Draft
import Telemetry.ObjectId

/-!
# The shape that a reader expects

A shape describes the values a decoder accepts, in enough detail to follow a text from left to right
and to stop at the first place that does not fit. `Draft.valueFor` does that: it finds the place,
whether it is a fault of the text or a mismatch, or the value without what has been passed over.

A record is written as an object, where unknown members are passed over and a known one may stand
only once, or as an array of its fields in order, after which nothing is read.
-/

namespace Telemetry.Json

/-- What a reader expects of a value. It is the decoder's own account of itself, and says nothing of
what is made of the value. -/
inductive Shape where
  | anything
  | string
  | objectId
  /-- a whole number within bounds, both included -/
  | whole (low high : Int)
  | sequence (item : Shape)
  /-- a record: its fields in order, each with its shape and whether it may be left out -/
  | record (fields : List (String × Shape × Bool))

namespace Shape

/-- The shape of a member of a record, if the record has such a field. -/
def field? (key : String) : List (String × Shape × Bool) → Option Shape
  | [] => none
  | (name, s, _) :: rest => if name = key then some s else field? key rest

/-- Whether every field that may not be left out is among the keys. Which one is missing is not told
here: the decoder does that. -/
def complete (fields : List (String × Shape × Bool)) (keys : List String) : Bool :=
  fields.all fun (name, _, optional) => optional || keys.contains name

/-- Whether the fields from here on may all be left out. -/
def allOptional (fields : List (String × Shape × Bool)) : Bool :=
  fields.all fun (_, _, optional) => optional

end Shape

namespace Draft

/-- The fault of a draft where a string or number of some kind was wanted: its own, if it has one,
and else a mismatch. An array or object is not looked into, so a fault inside it goes unnoticed. -/
def otherwise : Draft → Fault
  | broken f _ => f
  | string none => .malformed
  | number none => .malformed
  | _ => .mismatch

/-- A number of the given bounds. -/
def wholeFor (low high : Int) : Draft → Except Fault Value
  | number (some (.whole n)) =>
    if low ≤ n.value ∧ n.value ≤ high then .ok (.number (.whole n)) else .error .mismatch
  | d => .error d.otherwise

/-- A text that is an object id, as it is written. It is made into an id only by the decoder. -/
def objectIdFor : Draft → Except Fault Value
  | string (some s) => if ObjectId.isHex s then .ok (.string s) else .error .mismatch
  | d => .error d.otherwise

/-- A string of any content. -/
def stringFor : Draft → Except Fault Value
  | string (some s) => .ok (.string s)
  | d => .error d.otherwise

mutual

/-- The value of a draft for a reader who expects `shape`, at most `depth` levels deep. Members that
the reader passes over are not part of it. The draft is gone through from left to right, so the
first thing that does not fit is what is reported. -/
def valueFor (depth : Nat) : Shape → Draft → Except Fault Value
  | .anything, d => d.valueWithin depth
  | .string, d => stringFor d
  | .objectId, d => objectIdFor d
  | .whole low high, d => wholeFor low high d
  | .sequence item, array items fault => do
    if depth = 0 then .error .malformed
    let vs ← itemsFor (depth - 1) item items
    ending fault
    return .array vs
  | .sequence _, d => .error d.otherwise
  | .record fields, array items fault => do
    if depth = 0 then .error .malformed
    let vs ← positionsFor (depth - 1) fields items fault
    return .array vs
  | .record fields, object members fault => do
    if depth = 0 then .error .malformed
    let ms ← membersFor (depth - 1) fields [] members fault
    return .object ms
  | .record _, d => .error d.otherwise

/-- The items of an array, each of the same shape, up to the first that does not fit. -/
def itemsFor (depth : Nat) (item : Shape) : List Draft → Except Fault (List Value)
  | [] => .ok []
  | d :: ds => do
    let v ← valueFor depth item d
    let vs ← itemsFor depth item ds
    return v :: vs

/-- The fields of a record written as an array. Whatever follows the last of them is malformed. -/
def positionsFor (depth : Nat) :
    List (String × Shape × Bool) → List Draft → Option Fault → Except Fault (List Value)
  | fields, [], fault => do
    ending fault
    if Shape.allOptional fields then .ok [] else .error .mismatch
  | [], _ :: _, _ => .error .malformed
  | (_, s, _) :: fields, d :: ds, fault => do
    let v ← valueFor depth s d
    let vs ← positionsFor depth fields ds fault
    return v :: vs

/-- The members of a record written as an object, after those with the keys `seen`. -/
def membersFor (depth : Nat) (fields : List (String × Shape × Bool)) (seen : List String) :
    List (Except Fault String × Draft) → Option Fault → Except Fault (List (String × Value))
  | [], fault => do
    ending fault
    if Shape.complete fields seen then .ok [] else .error .mismatch
  | m :: ms, fault => do
    let (key, v) ← memberFor depth fields seen m
    let vs ← membersFor depth fields (key :: seen) ms fault
    return (v.map fun v => (key, v)).toList ++ vs

/-- The key of a member, and its value if the record has such a field. A field that stands twice is
a fault at its second place, before the value there is read. -/
def memberFor (depth : Nat) (fields : List (String × Shape × Bool)) (seen : List String) :
    Except Fault String × Draft → Except Fault (String × Option Value)
  | (.error f, _) => .error f
  | (.ok key, d) =>
    match Shape.field? key fields with
    | none => (skip d).map fun _ => (key, none)
    | some s => do
      if seen.contains key then .error .mismatch
      let v ← valueFor depth s d
      return (key, some v)

end

end Draft

end Telemetry.Json
