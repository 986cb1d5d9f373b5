import Telemetry.Json.Decoder

/-!
# Readings

A reading is one value taken by a device, named after the descriptor of its kind.
-/

namespace Telemetry

/-- Milliseconds since the epoch. Times before the epoch are negative; zero often stands for none.
-/
abbrev Timestamp := Int64

/-- A single value of a device. The value is kept as text; its descriptor, which it names, says how
to read it. -/
structure Reading where
  id : ObjectId
  /-- when the reading was passed on, 0 if it was not -/
  pushed : Timestamp
  created : Timestamp
  /-- the time given by the device -/
  origin : Timestamp
  modified : Timestamp
  device : String
  /-- the name of the value descriptor -/
  name : String
  value : String
deriving DecidableEq

namespace Reading

/-- A reading that has not been stored. It has no id and no times yet. -/
def new (name value : String) : Reading := ⟨.nil, 0, 0, 0, 0, "", name, value⟩

/-- The fields in the order in which they are written. -/
def fields (r : Reading) : List (String × Json.Value) :=
  [("id", .string r.id.toHex), ("pushed", .ofInt64 r.pushed), ("created", .ofInt64 r.created),
    ("origin", .ofInt64 r.origin), ("modified", .ofInt64 r.modified), ("device", .string r.device),
    ("name", .string r.name), ("value", .string r.value)]

/-- A reading as a value. It looks the same wherever it stands: on its own, in an event, and in the
store. -/
def toJson (r : Reading) : Json.Value := .object r.fields

/-- A reading as the document that is stored for it. -/
def toDocument (r : Reading) : Document := .ofFields r.fields

open Json.Fields Json.Decoder in
/-- Only the name and the value must be given. The device is usually that of the event. -/
def layout : Json.Fields Reading :=
  mk <$> optional "id" objectId .nil <*> optional "pushed" int64 0 <*> optional "created" int64 0
    <*> optional "origin" int64 0 <*> optional "modified" int64 0 <*> optional "device" string ""
    <*> required "name" string <*> required "value" string

/-- The reader of readings. Missing fields take the values of a reading that has not been stored,
and fields it does not know are passed over. -/
def decoder : Json.Decoder Reading := Json.Fields.record "Reading" layout

end Reading

end Telemetry
