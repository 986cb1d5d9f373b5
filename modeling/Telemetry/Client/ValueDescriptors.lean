import Telemetry.Client.Events

/-!
# Value descriptors of the client

The name of a descriptor is unique, and a descriptor stays as long as a reading has its name.
-/

namespace Telemetry.Client

/-- The descriptors that a filter selects, all of them. There is no limit on lists of descriptors.
-/
def getValueDescriptors (f : Filter) : Action (List ValueDescriptor) := do
  let docs ← Action.call (.find .valueDescriptors f none)
  Action.ofExcept (Document.decodeAll ValueDescriptor.decoder docs)

/-- The first descriptor that a filter selects. None is an error, and a second one is not asked for.
-/
def getValueDescriptor (f : Filter) : Action ValueDescriptor := do
  let d ← Action.findOne .valueDescriptors f
  Action.ofExcept (d.decode ValueDescriptor.decoder)

/-- Report a name that is not unique as the name of the descriptor at hand. The store may only know
that some name was refused. -/
def nameTaken (name : String) : StoreError → StoreError
  | .notUnique _ => .notUnique name
  | e => e

/-- Store a descriptor with a fresh id and the present time. It is the store that refuses a name in
use, so two clients cannot both be told that it is free. -/
def addValueDescriptor (d : ValueDescriptor) : Action ObjectId := do
  let now ← Action.lift Program.clock
  let id ← Action.lift Program.takeId
  ExceptT.adapt (nameTaken d.name)
    (Action.insertOne .valueDescriptors { d with id := id, created := now }.toDocument)
  return id

/-- All descriptors, in the order of the store. -/
def valueDescriptors : Action (List ValueDescriptor) := getValueDescriptors .all

/-- How many descriptors are stored. -/
def valueDescriptorCount : Action UInt64 := Action.call (.count .valueDescriptors .all)

/-- The descriptor of a name. There is at most one, since the store refuses a second; that there is
none is an error. -/
def valueDescriptorByName (name : String) : Action ValueDescriptor :=
  getValueDescriptor (.eq "name" (.string name))

/-- The result of a look-up where nothing found is no error. Every other error passes through. -/
def ifFound {α : Type} (a : Action α) : Action (Option α) :=
  ExceptT.mk do
    match ← a.run with
    | .ok x => return .ok (some x)
    | .error .notFound => return .ok none
    | .error e => return .error e

/-- Put a descriptor in the place of the stored one with its id, unless another one has its name. A
descriptor that keeps its own name finds itself and is let pass. -/
def updateValueDescriptor (d : ValueDescriptor) : Action Unit := do
  if let some existing ← ifFound (valueDescriptorByName d.name) then
    if existing.id ≠ d.id then throw (.notUnique d.name)
  let now ← Action.lift Program.clock
  ExceptT.adapt (nameTaken d.name)
    (Action.call
      (.update .valueDescriptors d.id (.replace { d with modified := now }.toDocument)))

/-- Delete a descriptor, unless a reading has its name. The readings are only counted, and the id is
read once more by the deletion itself. -/
def deleteValueDescriptorById (text : String) : Action Unit := do
  let id ← Action.ofExcept (parseId text)
  let d ← getValueDescriptor (byId id)
  let inUse ← Action.call (.count .readings (.eq "name" (.string d.name)))
  if 0 < inUse then throw (.descriptorInUse d.name)
  Action.deleteById .valueDescriptors text

/-- The descriptors of the names in turn; a name without one is passed over. A name that is given
twice is answered twice, and every other error ends the list. -/
def valueDescriptorsByName : List String → Action (List ValueDescriptor)
  | [] => pure []
  | name :: names => do
    let found ← ifFound (valueDescriptorByName name)
    let rest ← valueDescriptorsByName names
    return found.toList ++ rest

/-- The descriptor stored under an id. The text is read before the store is asked. -/
def valueDescriptorById (text : String) : Action ValueDescriptor := do
  let id ← Action.ofExcept (parseId text)
  getValueDescriptor (byId id)

/-- The descriptors with one unit of measure. -/
def valueDescriptorsByUomLabel (uomLabel : String) : Action (List ValueDescriptor) :=
  getValueDescriptors (.eq "uomLabel" (.string uomLabel))

/-- Descriptors that have the label among theirs. A filter for equality looks into arrays, so there
is no filter of its own for labels. -/
def valueDescriptorsByLabel (label : String) : Action (List ValueDescriptor) :=
  getValueDescriptors (.eq "labels" (.string label))

/-- The descriptors of one type. -/
def valueDescriptorsByType (valueType : String) : Action (List ValueDescriptor) :=
  getValueDescriptors (.eq "type" (.string valueType))

/-- Delete all descriptors; the answer is how many. It is not asked whether readings still have
their names. -/
def scrubAllValueDescriptors : Action UInt64 := Action.call (.deleteAll .valueDescriptors .all)

end Telemetry.Client
