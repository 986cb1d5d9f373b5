import Telemetry.Document
import Telemetry.Json.Mismatch
import Telemetry.Json.Reader
import Telemetry.Json.Shape

/-!
# Decoders

A decoder turns a JSON value into a value of a type of this library, or says what does not fit. Its
shape is the same expectation as data, for reading from text.

The fields of a record are described once, in order, and read in two ways: from an object by name,
or from an array by position. Of several things wrong with an object the one with the smallest key
is reported, and a missing field only if every present one fits, the first in the order of the
record. Of several things wrong with an array the first is reported.
-/

namespace Telemetry.Json

/-- A reading of JSON values as values of type `α`. The shape is kept beside the reading, because a
text is read against it before there is a value. -/
structure Decoder (α : Type) where
  /-- what the decoder accepts -/
  shape : Shape
  /-- the reading -/
  decode : Value → Except Mismatch α

namespace Decoder

variable {α β : Type}

/-- Any value, as it is. -/
def anything : Decoder Value := ⟨.anything, .ok⟩

/-- A text, as it is. No other value is turned into one. -/
def string : Decoder String where
  shape := .string
  decode
    | .string s => .ok s
    | v => .error (.kind v "a string")

/-- A whole number between `low` and `high`, made into `α`. A number with a fraction or an exponent
does not fit, even if its value is whole. -/
def whole (low high : Int) (expected : String) (make : Int → α) : Decoder α where
  shape := .whole low high
  decode
    | .number (.whole n) =>
      if low ≤ n.value ∧ n.value ≤ high then .ok (make n.value) else .error (.range n expected)
    | v => .error (.kind v expected)

/-- A whole number of the signed 64-bit range. -/
def int64 : Decoder Int64 := whole (-2 ^ 63) (2 ^ 63 - 1) "i64" Int64.ofInt

/-- A whole number of the unsigned 64-bit range. -/
def uint64 : Decoder UInt64 := whole 0 (2 ^ 64 - 1) "u64" fun i => UInt64.ofNat i.toNat

/-- A whole number below `2 ^ 16`. -/
def uint16 : Decoder UInt16 := whole 0 (2 ^ 16 - 1) "u16" fun i => UInt16.ofNat i.toNat

/-- A whole number below `2 ^ 8`. -/
def uint8 : Decoder UInt8 := whole 0 (2 ^ 8 - 1) "u8" fun i => UInt8.ofNat i.toNat

/-- An object id, written in hex digits of either case. The case is not kept: what is decoded is the
number. -/
def objectId : Decoder ObjectId where
  shape := .objectId
  decode
    | .string s =>
      match ObjectId.parse? s with
      | some id => .ok id
      | none => .error (.objectId s)
    | v => .error (.kind v "a string")

/-- Decode every item, stopping at the first that does not fit; none is left out. -/
def decodeAll (d : Decoder α) : List Value → Except Mismatch (List α)
  | [] => .ok []
  | v :: vs => do
    let a ← d.decode v
    let as ← decodeAll d vs
    return a :: as

/-- An array of items of one kind, of any length. The first item that does not fit is what is
reported. -/
def list (d : Decoder α) : Decoder (List α) where
  shape := .sequence d.shape
  decode
    | .array items => d.decodeAll items
    | v => .error (.kind v "a sequence")

/-- Decode the first `n` items. Those behind them are not looked at, so that it is their number that
is reported. -/
def decodeFirst (d : Decoder α) (n : Nat) : (position : Nat) → List Value → Except Mismatch (List α)
  | position, [] =>
    if position < n then .error (.short position ("an array of length " ++ toString n)) else .ok []
  | position, v :: vs =>
    if position < n then do
      let a ← d.decode v
      let as ← decodeFirst d n (position + 1) vs
      return a :: as
    else .ok []

/-- An array of exactly `n` items. The items are decoded before their number is complained of. -/
def exactly (n : Nat) (d : Decoder α) : Decoder (List α) where
  shape := .sequence d.shape
  decode
    | .array items => do
      let as ← d.decodeFirst n 0 items
      if n < items.length then .error (.long items.length) else return as
    | v => .error (.kind v ("an array of length " ++ toString n))

end Decoder

/-! ## Records -/

/-- What is wrong with a record, before it is known which of several things is reported. -/
inductive Trouble where
  /-- the value under a key does not fit -/
  | invalid (key : String) (why : Mismatch)
  /-- a field is missing from an object -/
  | missing (field : String)
  /-- an array ends before this position -/
  | short (position : Nat)

/-- Of two troubles with an object, met in the order of the record, the one that is reported. Values
that do not fit go before fields that are missing, and among them the smaller key goes first. -/
def Trouble.first : Trouble → Trouble → Trouble
  | invalid k e, invalid l f => if l < k then invalid l f else invalid k e
  | invalid k e, _ => invalid k e
  | _, invalid l f => invalid l f
  | t, _ => t

/-- The fields of a record, with what is made of them. The two readings and the layout are built
together, so that they cannot disagree on the fields. -/
structure Fields (α : Type) where
  /-- name and shape of each field, and whether it may be left out -/
  layout : List (String × Shape × Bool)
  /-- the reading by name -/
  ofDocument : Document → Except Trouble α
  /-- the reading by position, from a position on; it returns the items it has not used -/
  ofItems : Nat → List Value → Except Trouble (α × List Value)

namespace Fields

variable {α β : Type}

/-- The value of a field, with its name to say where it did not fit. The name is kept only to choose
among several troubles. -/
def decodeAt (d : Decoder α) (name : String) (v : Value) : Except Trouble α :=
  (d.decode v).mapError (.invalid name)

/-- A field that must be there. Where it is missing the name of the field is the whole message. -/
def required (name : String) (d : Decoder α) : Fields α where
  layout := [(name, d.shape, false)]
  ofDocument doc :=
    match doc.get? name with
    | some v => decodeAt d name v
    | none => .error (.missing name)
  ofItems position
    | [] => .error (.short position)
    | v :: rest => (decodeAt d name v).map fun a => (a, rest)

/-- A field that has the value `default` where it is left out. A field that is there must fit:
`null` is not the same as leaving it out. -/
def optional (name : String) (d : Decoder α) (default : α) : Fields α where
  layout := [(name, d.shape, true)]
  ofDocument doc :=
    match doc.get? name with
    | some v => decodeAt d name v
    | none => .ok default
  ofItems _
    | [] => .ok (default, [])
    | v :: rest => (decodeAt d name v).map fun a => (a, rest)

/-- The same fields, with something else made of them. -/
def map (f : α → β) (x : Fields α) : Fields β where
  layout := x.layout
  ofDocument doc := (x.ofDocument doc).map f
  ofItems position items := (x.ofItems position items).map fun (a, rest) => (f a, rest)

/-- Both readings of an object are made, so that the trouble to report can be chosen. Stopping at
the first would report the order of the record. -/
def both : Except Trouble (α → β) → Except Trouble α → Except Trouble β
  | .ok f, .ok a => .ok (f a)
  | .ok _, .error t => .error t
  | .error t, .ok _ => .error t
  | .error t, .error u => .error (t.first u)

/-- The fields of `f`, followed by those of `x`. Those of `x` are counted from where `f` ends. -/
def seq (f : Fields (α → β)) (x : Fields α) : Fields β where
  layout := f.layout ++ x.layout
  ofDocument doc := both (f.ofDocument doc) (x.ofDocument doc)
  ofItems position items := do
    let (g, rest) ← f.ofItems position items
    let (a, rest) ← x.ofItems (position + f.layout.length) rest
    return (g a, rest)

instance : Functor Fields := ⟨map, fun a x => map (fun _ => a) x⟩

instance : Seq Fields := ⟨fun f x => seq f (x ())⟩

/-- The mismatch of a trouble with a record of the given name and number of fields. Only an array
that is too short needs them. -/
def mismatch (name : String) (size : Nat) : Trouble → Mismatch
  | .invalid _ why => why
  | .missing field => .missing field
  | .short position => .short position
      ("struct " ++ name ++ " with " ++ toString size ++
        (if size = 1 then " element" else " elements"))

/-- A record, read from an object or from an array. Unknown members of an object are passed over,
but an array may not be longer than the record. -/
def record (name : String) (x : Fields α) : Decoder α where
  shape := .record x.layout
  decode
    | .object members =>
      (x.ofDocument (Document.ofFields members)).mapError (mismatch name x.layout.length)
    | .array items =>
      match x.ofItems 0 items with
      | .error t => .error (mismatch name x.layout.length t)
      | .ok (a, []) => .ok a
      | .ok (_, _ :: _) => .error (.long items.length)
    | v => .error (.kind v ("struct " ++ name))

end Fields

namespace Decoder

variable {α : Type}

/-- Read a value from text: the fault is the first one met from left to right. What follows the
value is looked at only once the value fits. -/
def readText (d : Decoder α) (s : String) : Except Fault α := do
  let (draft, after) := Draft.read s
  let v ← draft.valueFor Draft.maxDepth d.shape
  Draft.ending after
  match d.decode v with
  | .ok a => return a
  | .error _ => .error .mismatch

end Decoder

end Telemetry.Json
