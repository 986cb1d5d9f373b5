import Telemetry.Client.Events

/-!
# Readings of the client

Readings are stored as they are. Every list of them has a limit, and a limit of zero is answered
without the store.
-/

namespace Telemetry.Client

/-- All readings, in the order of the store. This is the only list of them without a limit. -/
def readings : Action (List Reading) := do
  let docs ← Action.call (.find .readings .all none)
  Action.ofExcept (Document.decodeAll Reading.decoder docs)

/-- Store a reading with a fresh id and the present time. The id and the time that it comes with are
lost; the times of the device are kept. -/
def addReading (r : Reading) : Action ObjectId := do
  let id ← Action.lift Program.takeId
  let now ← Action.lift Program.clock
  Action.insertOne .readings { r with id := id, created := now }.toDocument
  return id

/-- Put a reading in the place of the stored one with its id. Every field is taken from the given
reading but the time of the change, which is the present. -/
def updateReading (r : Reading) : Action Unit := do
  let now ← Action.lift Program.clock
  Action.call (.update .readings r.id (.replace { r with modified := now }.toDocument))

/-- The reading stored under an id. The text is read first, so one that is no id is refused whatever
the store is like. -/
def readingById (text : String) : Action Reading := do
  let id ← Action.ofExcept (parseId text)
  let d ← Action.findOne .readings (byId id)
  Action.ofExcept (d.decode Reading.decoder)

/-- How many readings are stored, those that no event names included. -/
def readingCount : Action UInt64 := Action.call (.count .readings .all)

/-- Delete the reading stored under an id. Events that name it go on naming it, and are loaded
without it. -/
def deleteReadingById (text : String) : Action Unit := Action.deleteById .readings text

/-- The readings that a filter selects, at most `limit` of them. All lists of readings but one are
made by this, so they treat a limit of zero alike. -/
def getReadingsLimit (f : Filter) (limit : UInt64) : Action (List Reading) := do
  let docs ← Action.findLimit .readings f limit
  Action.ofExcept (Document.decodeAll Reading.decoder docs)

/-- The readings of one device. The limit is the number of readings that are wanted at most. -/
def readingsByDevice (device : String) (limit : UInt64) : Action (List Reading) :=
  getReadingsLimit (.eq "device" (.string device)) limit

/-- The readings of one name, that is, of one value descriptor. -/
def readingsByValueDescriptor (name : String) (limit : UInt64) : Action (List Reading) :=
  getReadingsLimit (.eq "name" (.string name)) limit

/-- Readings with any of the names. No names select nothing. All names go into one statement,
whatever their number. -/
def readingsByValueDescriptorNames (names : List String) (limit : UInt64) :
    Action (List Reading) :=
  getReadingsLimit (.among "name" (names.map .string)) limit

/-- Readings created from `start` to `stop`, both included. -/
def readingsByCreationTime (start stop : Timestamp) (limit : UInt64) : Action (List Reading) :=
  getReadingsLimit (.range "created" (.included start) (.included stop)) limit

/-- The readings of one device with one name. The limit counts those that have both. -/
def readingsByDeviceAndValueDescriptor (device name : String) (limit : UInt64) :
    Action (List Reading) :=
  getReadingsLimit (.also (.eq "device" (.string device)) (.eq "name" (.string name))) limit

end Telemetry.Client
