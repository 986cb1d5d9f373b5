import Mathlib.Data.List.Forall2
import Mathlib.Data.List.Nodup
import Telemetry.Proofs.Entity
import Telemetry.Proofs.Json.Rewriting

/-!
# Documents that are decoded and written again

The documents that are decoded as an entity are more than those that are written for one: a field may
be left out, an id may be in upper case, and there may be fields that the entity does not have.
Nothing else is lost when the entity is written again.

* `Declared` and `Rewritten` — the fields of an entity, and what becomes of a document that is written
  again.
* `rewritten_of_writes` — a document whose fields are written one by one is rewritten.
* `stored_of_layout` — how the entities of one kind are stored, from the record they are decoded from.
* `documents_faithful` — readings, value descriptors and events are decoded as they were encoded,
  and what is decoded is written again with all its fields and no other.
-/

namespace Telemetry

/-! ## The fields of an entity -/

/-- A field of an entity: its name, whether it holds ids, which are written again in lower case, and
what is written where it is left out. -/
structure Declared where
  name : String
  /-- whether it holds an id or a list of ids -/
  ids : Bool := false
  /-- the value of the field where it is left out, if it may be -/
  usual : Option Json.Value := none

namespace Declared

/-- The form in which the value of a field is written again. -/
def form (f : Declared) : Json.Value → Json.Value := if f.ids then Json.Value.lowerTexts else id

/-- The value that is written for a field of a document. -/
def value? (f : Declared) (d : Document) : Option Json.Value :=
  match d.get? f.name with
  | some v => some (f.form v)
  | none => f.usual

/-- An entry is what is written for a field of a document. -/
def Writes (d : Document) (f : Declared) (entry : String × Json.Value) : Prop :=
  entry.1 = f.name ∧ f.value? d = some entry.2

end Declared

/-- What becomes of a document that is decoded and written again: the declared fields in the form in
which they are written, and no others. -/
structure Rewritten (fields : List Declared) (d d' : Document) : Prop where
  /-- a declared field that is present is kept, its ids in lower case -/
  present : ∀ f ∈ fields, ∀ v, d.get? f.name = some v → d'.get? f.name = some (f.form v)
  /-- one that is left out may be, and has its usual value -/
  absent : ∀ f ∈ fields, d.get? f.name = none → ∃ v, f.usual = some v ∧ d'.get? f.name = some v
  /-- no other field is there -/
  others : ∀ name, (∀ f ∈ fields, f.name ≠ name) → d'.get? name = none

section

variable {fields : List Declared} {entries : List (String × Json.Value)} {d : Document}

theorem names_of_writes (h : List.Forall₂ (Declared.Writes d) fields entries) :
    entries.map (·.1) = fields.map (·.name) := by
  induction h with
  | nil => rfl
  | cons hfirst _ ih => rw [List.map_cons, List.map_cons, hfirst.1, ih]

/-- Every declared field is written, with what it makes of the document. -/
theorem exists_entry_of_writes (h : List.Forall₂ (Declared.Writes d) fields entries) {f : Declared}
    (hf : f ∈ fields) : ∃ v, (f.name, v) ∈ entries ∧ f.value? d = some v := by
  -- on the declared fields, each with its entry beside it
  induction h with
  | nil => cases hf
  | @cons g entry _ _ hfirst _ ih =>
    rcases List.mem_cons.1 hf with rfl | hf
    · obtain ⟨hname, hv⟩ := hfirst
      exact ⟨entry.2, hname ▸ List.mem_cons_self .., hv⟩
    · obtain ⟨v, hmem, hv⟩ := ih hf
      exact ⟨v, List.mem_cons_of_mem _ hmem, hv⟩

/-- A document whose fields are written one by one, under different names, is rewritten. The names
must differ, for otherwise a later field would be written over an earlier one. -/
theorem rewritten_of_writes (h : List.Forall₂ (Declared.Writes d) fields entries)
    (distinct : (fields.map (·.name)).Nodup) :
    Rewritten fields d (Document.ofFields entries) := by
  rw [← names_of_writes h] at distinct
  have written : ∀ f ∈ fields, (Document.ofFields entries).get? f.name = f.value? d := by
    intro f hf
    obtain ⟨v, hmem, hv⟩ := exists_entry_of_writes h hf
    rw [hv, Document.get?_ofFields]
    -- of two entries with one name the last would win, but there is only one
    refine OrderedMap.lookup_of_unique (fun v' hmem' => ?_) (List.mem_reverse.2 hmem)
    have same := List.inj_on_of_nodup_map distinct (List.mem_reverse.1 hmem') hmem rfl
    exact (Prod.mk.inj same).2
  refine ⟨fun f hf v hv => ?_, fun f hf hnone => ?_, fun name hname => ?_⟩
  · rw [written f hf, Declared.value?, hv]
  · obtain ⟨v, -, hv⟩ := exists_entry_of_writes h hf
    have usual : f.value? d = f.usual := by rw [Declared.value?, hnone]
    exact ⟨v, usual.symm.trans hv, (written f hf).trans hv⟩
  · rw [Document.get?_ofFields]
    cases hl : OrderedMap.lookup name entries.reverse with
    | none => rfl
    | some v =>
      have listed := List.mem_reverse.1 (OrderedMap.mem_of_lookup hl)
      have key : name ∈ fields.map (·.name) :=
        names_of_writes h ▸ List.mem_map_of_mem (f := (·.1)) listed
      obtain ⟨f, hf, rfl⟩ := List.mem_map.1 key
      exact absurd rfl (hname f hf)

/-! ## Reading a field -/

variable {α : Type} {f : Declared} {dec : Json.Decoder α} {write : α → Json.Value}

/-- A field that is present is written in the form that its decoder keeps. -/
theorem Declared.writes_of_present {v : Json.Value} {a : α} (hform : dec.Rewrites write f.form)
    (hv : d.get? f.name = some v)
    (h : (dec.decode v).mapError (Json.Trouble.invalid f.name) = .ok a) :
    f.Writes d (f.name, write a) := by
  have decoded : dec.decode v = .ok a := Json.Fields.mapError_eq_ok.1 h
  refine ⟨rfl, ?_⟩
  rw [value?, hv, hform v a decoded]

/-- A field that must be there is written as it is read. -/
theorem Declared.writes_required (hform : dec.Rewrites write f.form) {a : α}
    (h : (Json.Fields.required f.name dec).ofDocument d = .ok a) :
    f.Writes d (f.name, write a) := by
  rw [Json.Fields.ofDocument_required] at h
  split at h
  · next v hv => exact writes_of_present hform hv h
  · cases h

/-- A field that may be left out is written as it is read, or with its usual value. So writing adds
the fields that were left out. -/
theorem Declared.writes_optional {usual : α} (hform : dec.Rewrites write f.form)
    (husual : f.usual = some (write usual)) {a : α}
    (h : (Json.Fields.optional f.name dec usual).ofDocument d = .ok a) :
    f.Writes d (f.name, write a) := by
  rw [Json.Fields.ofDocument_optional] at h
  split at h
  · next v hv => exact writes_of_present hform hv h
  · next hnone =>
    obtain rfl := Except.ok.inj h
    refine ⟨rfl, ?_⟩
    rw [value?, hnone, husual]

/-- A list that may be left out is written item by item, or is empty. -/
theorem Declared.writes_list
    (hform : (Json.Decoder.list dec).Rewrites (fun as => .array (as.map write)) f.form)
    (husual : f.usual = some (.array [])) {as : List α}
    (h : (Json.Fields.optional f.name (Json.Decoder.list dec) []).ofDocument d = .ok as) :
    f.Writes d (f.name, .array (as.map write)) := by
  have empty : f.usual = some ((fun as : List α => Json.Value.array (as.map write)) []) := husual
  -- the goal alone would have a list of values written by `.array`
  have written := writes_optional hform empty h
  exact written

/-- A value of any kind that may be left out is written as it is, or is null. -/
theorem Declared.writes_value (hform : f.form = id) (husual : f.usual = some .null)
    {v : Json.Value}
    (h : (Json.Fields.optional f.name Json.Decoder.anything .null).ofDocument d = .ok v) :
    f.Writes d (f.name, v) := by
  have same : Json.Decoder.anything.Rewrites id f.form := hform ▸ Json.Decoder.anything_rewrites
  have written := writes_optional same husual h
  exact written

end

/-! ## Kinds of entities

The three kinds differ in their fields only. For each of them the fields are listed once more, as
what is promised of its documents, and compared with those that the decoder reads. -/

/-- How the entities of one kind are stored: their documents are read back, and reading a document
and writing it again only rewrites it. -/
structure Stored (α : Type) [Entity α] (toJson : α → Json.Value) (fields : List Declared) :
    Prop where
  /-- what is written for an entity is an object, and so a document -/
  encoded : ∀ a : α, Document.ofValue (toJson a) = .ok (Entity.toDocument a)
  decoded : ∀ a : α, (Entity.toDocument a).decode Entity.decoder = .ok a
  carried : ∀ a : α, (Entity.toDocument a).id = .ok (Entity.id a)
  /-- any document that is decoded is written again -/
  rewritten : ∀ (d : Document) (a : α), d.decode Entity.decoder = .ok a →
    Rewritten fields d (Entity.toDocument a)
  /-- fields that are not declared make no difference -/
  unknown : ∀ d d' : Document, (∀ f ∈ fields, d.get? f.name = d'.get? f.name) →
    d.decode (Entity.decoder : Json.Decoder α) = d'.decode Entity.decoder

/-- Entities are stored where each field of the record they are decoded from is written again. This
is shown once for a layout, and the three kinds of entities are cases of it. -/
theorem stored_of_layout {α : Type} [Entity α] {name : String} {layout : Json.Fields α}
    {entries : α → List (String × Json.Value)} {fields : List Declared}
    (hdecoder : Entity.decoder = Json.Fields.record name layout)
    (hdocument : ∀ a, Entity.toDocument a = Document.ofFields (entries a))
    (distinct : (fields.map (·.name)).Nodup)
    (names : layout.layout.map (·.1) = fields.map (·.name)) (own : layout.ReadsOwn)
    (written : ∀ d, layout.Yields d fun a => List.Forall₂ (Declared.Writes d) fields (entries a)) :
    Stored α (fun a => .object (entries a)) fields where
  encoded a := congrArg Except.ok (hdocument a).symm
  decoded := Entity.decode_toDocument
  carried := Entity.id_toDocument
  rewritten d a h := by
    rw [hdecoder] at h
    rw [hdocument]
    exact rewritten_of_writes (written d a (Document.ofDocument_of_decode h)) distinct
  unknown d d' h := by
    have same : ∀ field ∈ layout.layout, d.get? field.1 = d'.get? field.1 := by
      intro field hfield
      have key : field.1 ∈ fields.map (·.name) := names ▸ List.mem_map_of_mem hfield
      obtain ⟨f, hf, hname⟩ := List.mem_map.1 key
      exact hname ▸ h f hf
    rw [hdecoder, Document.decode_record_eq, Document.decode_record_eq, own d d' same]

/-- What is written for the id of something not yet stored. -/
def nilText : Json.Value := .string "000000000000000000000000"

open Json.Decoder Declared

namespace Reading

/-- Only the name and the value must be there. -/
def declared : List Declared :=
  [{ name := "id", ids := true, usual := some nilText },
    { name := "pushed", usual := some (.ofInt64 0) },
    { name := "created", usual := some (.ofInt64 0) },
    { name := "origin", usual := some (.ofInt64 0) },
    { name := "modified", usual := some (.ofInt64 0) },
    { name := "device", usual := some (.string "") }, { name := "name" }, { name := "value" }]

/-- Whatever a reading is decoded from, its declared fields are written for it. -/
theorem layout_writes (d : Document) :
    layout.Yields d fun r => List.Forall₂ (Declared.Writes d) declared r.fields := by
  repeat refine .seq ?_
  refine .map ?_
  intro id hid pushed hpushed created hcreated origin horigin modified hmodified device hdevice
    name hname value hvalue
  exact .cons (writes_optional (objectId_rewrites fun _ => rfl) rfl hid) <|
    .cons (writes_optional int64_rewrites rfl hpushed) <|
    .cons (writes_optional int64_rewrites rfl hcreated) <|
    .cons (writes_optional int64_rewrites rfl horigin) <|
    .cons (writes_optional int64_rewrites rfl hmodified) <|
    .cons (writes_optional string_rewrites rfl hdevice) <|
    .cons (writes_required string_rewrites hname) <|
    .cons (writes_required string_rewrites hvalue) .nil

theorem layout_readsOwn : layout.ReadsOwn := by
  unfold layout
  apply_rules [Json.Fields.ReadsOwn.seq, Json.Fields.ReadsOwn.map, Json.Fields.readsOwn_required,
    Json.Fields.readsOwn_optional]

theorem stored : Stored Reading toJson declared :=
  stored_of_layout rfl (fun _ => rfl) (by decide) rfl layout_readsOwn layout_writes

end Reading

namespace EventRecord

/-- The id and the device must be there. -/
def declared : List Declared :=
  [{ name := "id", ids := true }, { name := "pushed", usual := some (.ofInt64 0) },
    { name := "device" }, { name := "created", usual := some (.ofInt64 0) },
    { name := "modified", usual := some (.ofInt64 0) },
    { name := "origin", usual := some (.ofInt64 0) },
    { name := "readings", ids := true, usual := some (.array []) }]

/-- Whatever a record is decoded from, its declared fields are written for it. -/
theorem layout_writes (d : Document) :
    layout.Yields d fun e => List.Forall₂ (Declared.Writes d) declared e.fields := by
  repeat refine .seq ?_
  refine .map ?_
  intro id hid pushed hpushed device hdevice created hcreated modified hmodified origin horigin
    readings hreadings
  exact .cons (writes_required (objectId_rewrites fun _ => rfl) hid) <|
    .cons (writes_optional int64_rewrites rfl hpushed) <|
    .cons (writes_required string_rewrites hdevice) <|
    .cons (writes_optional int64_rewrites rfl hcreated) <|
    .cons (writes_optional int64_rewrites rfl hmodified) <|
    .cons (writes_optional int64_rewrites rfl horigin) <|
    .cons (writes_list objectIds_rewrites rfl hreadings) .nil

theorem layout_readsOwn : layout.ReadsOwn := by
  unfold layout
  apply_rules [Json.Fields.ReadsOwn.seq, Json.Fields.ReadsOwn.map, Json.Fields.readsOwn_required,
    Json.Fields.readsOwn_optional]

theorem stored : Stored EventRecord toJson declared :=
  stored_of_layout rfl (fun _ => rfl) (by decide) rfl layout_readsOwn layout_writes

end EventRecord

namespace ValueDescriptor

/-- Only the name must be there. -/
def declared : List Declared :=
  [{ name := "id", ids := true, usual := some nilText },
    { name := "created", usual := some (.ofInt64 0) },
    { name := "description", usual := some (.string "") },
    { name := "modified", usual := some (.ofInt64 0) },
    { name := "origin", usual := some (.ofInt64 0) }, { name := "name" },
    { name := "min", usual := some .null }, { name := "max", usual := some .null },
    { name := "defaultValue", usual := some .null },
    { name := "type", usual := some (.string "") },
    { name := "uomLabel", usual := some (.string "") },
    { name := "formatting", usual := some (.string "") },
    { name := "labels", usual := some (.array []) }]

/-- Whatever a descriptor is decoded from, its declared fields are written for it. -/
theorem layout_writes (d : Document) :
    layout.Yields d fun v => List.Forall₂ (Declared.Writes d) declared v.fields := by
  repeat refine .seq ?_
  refine .map ?_
  intro id hid created hcreated description hdescription modified hmodified origin horigin
    name hname min hmin max hmax defaultValue hdefaultValue valueType hvalueType
    uomLabel huomLabel formatting hformatting labels hlabels
  exact .cons (writes_optional (objectId_rewrites fun _ => rfl) rfl hid) <|
    .cons (writes_optional int64_rewrites rfl hcreated) <|
    .cons (writes_optional string_rewrites rfl hdescription) <|
    .cons (writes_optional int64_rewrites rfl hmodified) <|
    .cons (writes_optional int64_rewrites rfl horigin) <|
    .cons (writes_required string_rewrites hname) <|
    .cons (writes_value rfl rfl hmin) <|
    .cons (writes_value rfl rfl hmax) <|
    .cons (writes_value rfl rfl hdefaultValue) <|
    .cons (writes_optional string_rewrites rfl hvalueType) <|
    .cons (writes_optional string_rewrites rfl huomLabel) <|
    .cons (writes_optional string_rewrites rfl hformatting) <|
    .cons (writes_list strings_rewrites rfl hlabels) .nil

/-- A descriptor is decoded from its own fields, whatever else is in the document. -/
theorem layout_readsOwn : layout.ReadsOwn := by
  unfold layout
  apply_rules [Json.Fields.ReadsOwn.seq, Json.Fields.ReadsOwn.map, Json.Fields.readsOwn_required,
    Json.Fields.readsOwn_optional]

theorem stored : Stored ValueDescriptor toJson declared :=
  stored_of_layout rfl (fun _ => rfl) (by decide) rfl layout_readsOwn layout_writes

end ValueDescriptor

/-- Readings, value descriptors and events are decoded from their documents as they were encoded.
A document that is decoded is written again with each declared field that it has, its ids in lower
case, with the usual value of each that it has not, and with no other field; such a field makes no
difference to what is decoded. -/
theorem documents_faithful :
    Stored Reading Reading.toJson Reading.declared ∧
      Stored ValueDescriptor ValueDescriptor.toJson ValueDescriptor.declared ∧
      Stored EventRecord EventRecord.toJson EventRecord.declared ∧
      ∀ e : Event, e.toRecord.toEvent e.readings = e :=
  ⟨Reading.stored, ValueDescriptor.stored, EventRecord.stored, Event.toRecord_toEvent⟩

/-- An event with ids in upper case and a field that events do not have, others being left out. All
that rewriting changes can be seen in it. -/
def upperCaseEvent : Document :=
  .ofFields [("device", .string "pump"), ("id", .string "0A1B2C3D4E5F60718293A4B5"),
    ("note", .null), ("readings", .array [.string "0A1B2C3D4E5F60718293A4B6"])]

/-- What is decoded from it. -/
def lowerCaseEvent : EventRecord :=
  ⟨⟨0x0a1b2c3d4e5f60718293a4b5, by decide⟩, 0, "pump", 0, 0, 0,
    [⟨0x0a1b2c3d4e5f60718293a4b6, by decide⟩]⟩

/-- The event is decoded and written again, without the other field. -/
theorem documents_faithful_of_upperCaseEvent :
    upperCaseEvent.decode EventRecord.decoder = .ok lowerCaseEvent ∧
      Rewritten EventRecord.declared upperCaseEvent lowerCaseEvent.toDocument ∧
      lowerCaseEvent.toDocument.get? "note" = none := by
  have decoded : upperCaseEvent.decode EventRecord.decoder = .ok lowerCaseEvent := by rfl
  have rewritten := documents_faithful.2.2.1.rewritten upperCaseEvent lowerCaseEvent decoded
  exact ⟨decoded, rewritten, rewritten.others "note" (by simp [EventRecord.declared])⟩

end Telemetry
