import Telemetry.Document.Stored
import Telemetry.Proofs.Json.Decoder

/-!
# Entities and their documents

Events, readings and value descriptors are kept in the same way: each is written as a document that
carries its id in lower case, and the document is read back as the entity. `Entity` names what the
three have in common, and whatever is proved from it holds for all of them.
-/

namespace Telemetry

/-- A document made of a list of fields is looked up in that list, later fields first. -/
theorem Document.get?_ofFields (fields : List (String × Json.Value)) (name : String) :
    (Document.ofFields fields).get? name = OrderedMap.lookup name fields.reverse :=
  OrderedMap.get?_ofList ..

/-- A kind of record that is stored: how it is written as a document and read again, and where its
id is. -/
class Entity (α : Type) where
  id : α → ObjectId
  toDocument : α → Document
  decoder : Json.Decoder α
  /-- the document is read back as the entity -/
  decode_toDocument (a : α) : (toDocument a).decode decoder = .ok a
  /-- the document carries the id as lower-case text -/
  get?_id (a : α) : (toDocument a).get? "id" = some (.string (id a).toHex)

namespace Entity

variable {α : Type} [Entity α]

/-- Different entities have different documents. -/
theorem toDocument_injective : Function.Injective (toDocument : α → Document) := by
  intro a b h
  have hd := decode_toDocument a
  rw [h, decode_toDocument] at hd
  exact (Except.ok.inj hd).symm

@[simp] theorem id_toDocument (a : α) : (toDocument a).id = .ok (id a) := by
  simp only [Document.id, get?_id, Option.bind_some, Json.Value.asString?, ObjectId.parse?_toHex]

/-- The documents of some entities are read back as those entities. -/
@[simp] theorem decodeAll_map : ∀ as : List α,
    Document.decodeAll decoder (as.map toDocument) = .ok as
  | [] => rfl
  | a :: as => by
    rw [List.map_cons, Document.decodeAll, decode_toDocument, decodeAll_map as]
    rfl

end Entity

/-- What the fields of a record make of a document is what the document stores. -/
theorem Document.decode_record {α : Type} {name : String} {x : Json.Fields α} {d : Document} {a : α}
    (h : x.ofDocument d = .ok a) : d.decode (Json.Fields.record name x) = .ok a := by
  rw [Document.decode, Json.Fields.record_decode h]
  rfl

/-- A record is decoded from a document exactly as its fields are read. -/
theorem Document.decode_record_eq {α : Type} (name : String) (x : Json.Fields α) (d : Document) :
    d.decode (Json.Fields.record name x)
      = ((x.ofDocument d).mapError (Json.Fields.mismatch name x.layout.length)).mapError
          fun why => .unexpected (.shape why) := by
  have listed : Document.ofFields d.entries = d := OrderedMap.ofList_entries d
  change (((x.ofDocument (Document.ofFields d.entries)).mapError _).mapError _) = _
  rw [listed]

/-- A document that is decoded as a record is one that the fields of the record make something of.
-/
theorem Document.ofDocument_of_decode {α : Type} {name : String} {x : Json.Fields α} {d : Document}
    {a : α} (h : d.decode (Json.Fields.record name x) = .ok a) : x.ofDocument d = .ok a := by
  rw [decode_record_eq] at h
  exact Json.Fields.mapError_eq_ok.1 (Json.Fields.mapError_eq_ok.1 h)

namespace Reading

theorem get?_toDocument (r : Reading) (name : String) :
    r.toDocument.get? name = OrderedMap.lookup name r.fields.reverse :=
  Document.get?_ofFields ..

theorem ofDocument_toDocument (r : Reading) : layout.ofDocument r.toDocument = .ok r := by
  simp [layout, get?_toDocument, fields, OrderedMap.lookup, Except.map]

instance : Entity Reading where
  id := id
  toDocument := toDocument
  decoder := decoder
  decode_toDocument r := Document.decode_record r.ofDocument_toDocument
  get?_id r := by simp [get?_toDocument, fields, OrderedMap.lookup]

end Reading

namespace EventRecord

theorem get?_toDocument (e : EventRecord) (name : String) :
    e.toDocument.get? name = OrderedMap.lookup name e.fields.reverse :=
  Document.get?_ofFields ..

theorem ofDocument_toDocument (e : EventRecord) : layout.ofDocument e.toDocument = .ok e := by
  have readings := Json.Decoder.list_decode Json.Decoder.objectId_decode e.readings
  simp [layout, get?_toDocument, fields, OrderedMap.lookup, readings, Except.map]

instance : Entity EventRecord where
  id := id
  toDocument := toDocument
  decoder := decoder
  decode_toDocument e := Document.decode_record e.ofDocument_toDocument
  get?_id e := by simp [get?_toDocument, fields, OrderedMap.lookup]

end EventRecord

namespace ValueDescriptor

theorem get?_toDocument (d : ValueDescriptor) (name : String) :
    d.toDocument.get? name = OrderedMap.lookup name d.fields.reverse :=
  Document.get?_ofFields ..

theorem ofDocument_toDocument (d : ValueDescriptor) : layout.ofDocument d.toDocument = .ok d := by
  have labels := Json.Decoder.list_decode Json.Decoder.string_decode d.labels
  simp [layout, get?_toDocument, fields, OrderedMap.lookup, labels, Except.map]

instance : Entity ValueDescriptor where
  id := id
  toDocument := toDocument
  decoder := decoder
  decode_toDocument d := Document.decode_record d.ofDocument_toDocument
  get?_id d := by simp [get?_toDocument, fields, OrderedMap.lookup]

end ValueDescriptor

end Telemetry
