import Telemetry.Json.Printer

/-!
# Documents

A document is what the store keeps of an entity: a map from field names to JSON values, listed in
the order of the names.
-/

namespace Telemetry

/-- A JSON object, its fields in increasing order of their names. Two objects with the same members
are one document, whatever the order in which they were written. -/
abbrev Document := OrderedMap String Json.Value

namespace Document

/-- The document as a JSON value, its members in the order of their names. The order in which they
were given is not kept. -/
def toValue (d : Document) : Json.Value := .object d.entries

/-- The compact text of a document, which is what a row of a database keeps. Documents with the same
fields have the same text. -/
def text (d : Document) : String := d.toValue.compact

/-- The document with the given fields, in any order; of two fields with one name the later counts.
-/
def ofFields (fields : List (String × Json.Value)) : Document := OrderedMap.ofList fields

/-- The document a value is, if it is an object. Nothing else can be stored, although it is JSON. -/
def ofValue? : Json.Value → Option Document
  | .object members => some (ofFields members)
  | _ => none

end Document

end Telemetry
