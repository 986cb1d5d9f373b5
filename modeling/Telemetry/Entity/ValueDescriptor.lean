import Telemetry.Entity.Reading

/-!
# Value descriptors

A value descriptor says of what type the readings of one name are, in what unit, and how they are
shown. No two descriptors in the store have one name.
-/

namespace Telemetry

/-- Type, unit and format of the readings of one name. The bounds and the default can be any JSON,
as their kind depends on the type. -/
structure ValueDescriptor where
  id : ObjectId
  created : Timestamp
  description : String
  modified : Timestamp
  origin : Timestamp
  /-- unique among all descriptors -/
  name : String
  min : Json.Value
  max : Json.Value
  defaultValue : Json.Value
  /-- a tag such as `I` for whole numbers or `F` for fractions -/
  valueType : String
  uomLabel : String
  /-- the format in which values are shown -/
  formatting : String
  labels : List String

namespace ValueDescriptor

/-- A descriptor that has not been stored. -/
def new (name : String) : ValueDescriptor :=
  ⟨.nil, 0, "", 0, 0, name, .null, .null, .null, "", "", "", []⟩

/-- The fields in the order in which they are written. -/
def fields (d : ValueDescriptor) : List (String × Json.Value) :=
  [("id", .string d.id.toHex), ("created", .ofInt64 d.created),
    ("description", .string d.description), ("modified", .ofInt64 d.modified),
    ("origin", .ofInt64 d.origin), ("name", .string d.name), ("min", d.min), ("max", d.max),
    ("defaultValue", d.defaultValue), ("type", .string d.valueType),
    ("uomLabel", .string d.uomLabel), ("formatting", .string d.formatting),
    ("labels", .array (d.labels.map .string))]

/-- A descriptor as a value. The bounds and the default are values of their own and stand in it
unchanged. -/
def toJson (d : ValueDescriptor) : Json.Value := .object d.fields

/-- A descriptor as the document that is stored for it. -/
def toDocument (d : ValueDescriptor) : Document := .ofFields d.fields

open Json.Fields Json.Decoder in
/-- Only the name must be given, for it is what readings refer to. -/
def layout : Json.Fields ValueDescriptor :=
  mk <$> optional "id" objectId .nil <*> optional "created" int64 0
    <*> optional "description" string "" <*> optional "modified" int64 0
    <*> optional "origin" int64 0 <*> required "name" string
    <*> optional "min" anything .null <*> optional "max" anything .null
    <*> optional "defaultValue" anything .null <*> optional "type" string ""
    <*> optional "uomLabel" string "" <*> optional "formatting" string ""
    <*> optional "labels" (list string) []

/-- The reader of descriptors. Missing fields take the values of a descriptor that has not been
stored, and fields it does not know are passed over. -/
def decoder : Json.Decoder ValueDescriptor := Json.Fields.record "ValueDescriptor" layout

end ValueDescriptor

end Telemetry
