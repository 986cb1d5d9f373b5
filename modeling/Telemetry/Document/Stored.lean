import Telemetry.Entity.Event
import Telemetry.Entity.ValueDescriptor
import Telemetry.StoreError

/-!
# Documents as stored entities

A stored document carries its id as hex text in the field `id`. An entity is decoded from a document
by name, and a document that does not fit is an unexpected error.
-/

namespace Telemetry.Document

/-- The document a value is, or the error for a value that is no object. -/
def ofValue (v : Json.Value) : Except StoreError Document :=
  match ofValue? v with
  | some d => .ok d
  | none => .error (.unexpected (.notAnObject v))

/-- The id a document carries, of either case. Whoever stores documents by their ids has to ask for
this, since the field may be missing or hold anything. -/
def id (d : Document) : Except StoreError ObjectId :=
  match (d.get? "id").bind Json.Value.asString? with
  | none => .error (.unexpected .noId)
  | some s =>
    match ObjectId.parse? s with
    | some id => .ok id
    | none => .error (.unexpected (.malformedId s))

/-- The document with its id field set, in lower case. All other fields are kept. -/
def withId (d : Document) (id : ObjectId) : Document := d.insert "id" (.string id.toHex)

/-- The entity that a document stores. A document that does not fit is unexpected, as nothing but
entities is meant to be stored. -/
def decode {α : Type} (decoder : Json.Decoder α) (d : Document) : Except StoreError α :=
  (decoder.decode d.toValue).mapError fun why => .unexpected (.shape why)

/-- The entities that documents store, up to the first that does not fit. One such document is
enough for the whole list to be refused. -/
def decodeAll {α : Type} (decoder : Json.Decoder α) : List Document → Except StoreError (List α)
  | [] => .ok []
  | d :: ds => do
    let a ← d.decode decoder
    let as ← decodeAll decoder ds
    return a :: as

end Telemetry.Document
