import Telemetry.Entity.Reading

/-!
# Events

An event is a set of readings taken from one device at one moment. The store keeps an event as a
record that names its readings by their ids and holds none of them.

* `Event.toRecord_toEvent` says that the record and the readings make the event again.
-/

namespace Telemetry

/-- Readings of one device at one moment. This is what a client gives and gets; the store keeps the
record instead. -/
structure Event where
  id : ObjectId
  /-- when the event was passed on, 0 if it was not -/
  pushed : Timestamp
  /-- name or id of the device -/
  device : String
  created : Timestamp
  modified : Timestamp
  /-- the time given by the device -/
  origin : Timestamp
  readings : List Reading
deriving DecidableEq

/-- An event as it is stored: its readings are named, not held. A reading can then be changed or
deleted without the events being touched, and an event may name a reading that is gone. -/
structure EventRecord where
  id : ObjectId
  pushed : Timestamp
  device : String
  created : Timestamp
  modified : Timestamp
  origin : Timestamp
  readings : List ObjectId
deriving DecidableEq

namespace Event

/-- An event that has not been stored. -/
def new (device : String) (readings : List Reading) : Event :=
  ⟨.nil, 0, device, 0, 0, 0, readings⟩

/-- The fields in the order in which they are written. -/
def fields (e : Event) : List (String × Json.Value) :=
  [("id", .string e.id.toHex), ("pushed", .ofInt64 e.pushed), ("device", .string e.device),
    ("created", .ofInt64 e.created), ("modified", .ofInt64 e.modified),
    ("origin", .ofInt64 e.origin), ("readings", .array (e.readings.map Reading.toJson))]

/-- An event as it is given out, with its readings whole. This is the form that the interface shows,
not the one that is stored. -/
def toJson (e : Event) : Json.Value := .object e.fields

open Json.Fields Json.Decoder in
/-- Only the device must be given. The readings may be given whole, each with its own fields. -/
def layout : Json.Fields Event :=
  mk <$> optional "id" objectId .nil <*> optional "pushed" int64 0 <*> required "device" string
    <*> optional "created" int64 0 <*> optional "modified" int64 0 <*> optional "origin" int64 0
    <*> optional "readings" (list Reading.decoder) []

/-- The reader of events. Missing fields take the values of an event that has not been stored, and
fields it does not know are passed over. -/
def decoder : Json.Decoder Event := Json.Fields.record "Event" layout

/-- The event as it is stored. Of its readings only the ids are kept, in order. -/
def toRecord (e : Event) : EventRecord :=
  ⟨e.id, e.pushed, e.device, e.created, e.modified, e.origin, e.readings.map Reading.id⟩

end Event

namespace EventRecord

/-- The fields in the order in which they are written. -/
def fields (e : EventRecord) : List (String × Json.Value) :=
  [("id", .string e.id.toHex), ("pushed", .ofInt64 e.pushed), ("device", .string e.device),
    ("created", .ofInt64 e.created), ("modified", .ofInt64 e.modified),
    ("origin", .ofInt64 e.origin), ("readings", .array (e.readings.map fun id => .string id.toHex))]

/-- A record as a value, the readings by the hex text of their ids. -/
def toJson (e : EventRecord) : Json.Value := .object e.fields

/-- A record as the document that is stored for it, the field with the ids of the readings included.
-/
def toDocument (e : EventRecord) : Document := .ofFields e.fields

open Json.Fields Json.Decoder in
/-- The id and the device must be given. -/
def layout : Json.Fields EventRecord :=
  mk <$> required "id" objectId <*> optional "pushed" int64 0 <*> required "device" string
    <*> optional "created" int64 0 <*> optional "modified" int64 0 <*> optional "origin" int64 0
    <*> optional "readings" (list objectId) []

/-- The reader of records. A record without an id does not fit, for nothing is stored without one.
-/
def decoder : Json.Decoder EventRecord := Json.Fields.record "EventDocument" layout

/-- The event with the given readings. They need not be those that the record names. -/
def toEvent (e : EventRecord) (readings : List Reading) : Event :=
  ⟨e.id, e.pushed, e.device, e.created, e.modified, e.origin, readings⟩

end EventRecord

/-- The record and the readings make the event again, so nothing is lost by keeping them apart. -/
theorem Event.toRecord_toEvent (e : Event) : e.toRecord.toEvent e.readings = e := rfl

end Telemetry
