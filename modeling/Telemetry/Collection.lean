/-!
# Collections

Events, readings and value descriptors are kept apart. In the collection of value descriptors no two
documents have one name.
-/

namespace Telemetry

/-- The three collections of documents. They have nothing in common but the store: an id may occur
in each of them. -/
inductive Collection where
  | events
  | readings
  | valueDescriptors
deriving DecidableEq

namespace Collection

/-- All collections, in the order in which they are set up. -/
def all : List Collection := [events, readings, valueDescriptors]

/-- The list is complete, so what is done for `all` is done for every collection. -/
theorem mem_all (c : Collection) : c ∈ all := by cases c <;> decide

/-- The name of a collection, which is the name of its table in a database. -/
def name : Collection → String
  | events => "event"
  | readings => "reading"
  | valueDescriptors => "valueDescriptor"

/-- The field whose values must differ within the collection, if there is one. Descriptors are named
by the readings that use them, so their names must tell them apart. -/
def uniqueField? : Collection → Option String
  | valueDescriptors => some "name"
  | _ => none

end Collection

end Telemetry
