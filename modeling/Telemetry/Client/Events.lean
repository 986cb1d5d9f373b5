import Telemetry.Chunks
import Telemetry.Power
import Telemetry.Program

/-!
# Events of the client

Events are added with their readings, loaded with the readings they name, and changed without
touching those. The readings an event names are looked up in batches, and a name whose reading is
gone is passed over.
-/

namespace Telemetry.Client

/-- How many readings are looked up by one store call. Without a bound an event with many readings
would make a statement that the server refuses. -/
def lookupBatch : Nat := 1000

/-- The filter for one document by its id. The ids are compared as texts, so it selects only what is
stored in lower case. -/
def byId (id : ObjectId) : Filter := .eq "id" (.string id.toHex)

/-- The filter for documents by their ids. The ids are compared as text, in the lower case in which
they are stored. -/
def amongIds (ids : List ObjectId) : Filter := .among "id" (ids.map fun id => .string id.toHex)

/-! ## Loading -/

/-- The readings stored under some of the ids, in the order of the store. An id under which nothing
is stored is no error. -/
def lookUp (ids : List ObjectId) : Action (List Reading) := do
  let docs ← Action.call (.find .readings (amongIds ids) none)
  Action.ofExcept (Document.decodeAll Reading.decoder docs)

/-- Look up batch after batch and collect the readings by id. A reading that is found twice is kept
once. -/
def lookUpAll : OrderedMap ObjectId Reading → List (List ObjectId) →
    Action (OrderedMap ObjectId Reading)
  | found, [] => pure found
  | found, batch :: rest => do
    let readings ← lookUp batch
    lookUpAll (readings.foldl (fun m r => m.insert r.id r) found) rest

/-- An event with those of the readings it names that have been found. They come in the order in
which they are named, and one named twice comes twice. -/
def resolve (found : OrderedMap ObjectId Reading) (e : EventRecord) : Event :=
  e.toEvent (e.readings.filterMap found.get?)

/-- The events of stored documents. All documents are decoded before the first reading is looked up,
so a document that does not fit costs no store call. -/
def loadEvents (docs : List Document) : Action (List Event) := do
  let records ← Action.ofExcept (Document.decodeAll EventRecord.decoder docs)
  let found ← lookUpAll ∅ (chunks lookupBatch (records.flatMap EventRecord.readings))
  return records.map (resolve found)

/-- The events that a filter selects, with their readings. This takes one call for the events and
one for every batch of readings. -/
def getEvents (f : Filter) : Action (List Event) := do
  let docs ← Action.call (.find .events f none)
  loadEvents docs

/-- The events that a filter selects, at most `limit` of them. The limit counts events and says
nothing of their readings. -/
def getEventsLimit (f : Filter) (limit : UInt64) : Action (List Event) := do
  let docs ← Action.findLimit .events f limit
  loadEvents docs

/-- All events, in the order of the store. -/
def events : Action (List Event) := getEvents .all

/-- The event stored under an id. The text is read before the store is asked, so a malformed one is
refused in every state. -/
def eventById (text : String) : Action Event := do
  let id ← Action.ofExcept (parseId text)
  let d ← Action.findOne .events (byId id)
  match ← loadEvents [d] with
  | e :: _ => return e
  | [] => throw (.unexpected .noFirst)

/-- The events of one device. The whole name is compared, capitals included. -/
def eventsForDevice (device : String) : Action (List Event) :=
  getEvents (.eq "device" (.string device))

/-- The events of one device, at most `limit` of them. -/
def eventsForDeviceLimit (device : String) (limit : UInt64) : Action (List Event) :=
  getEventsLimit (.eq "device" (.string device)) limit

/-- Events created from `start` to `stop`, both included. If `stop` is the earlier of the two there
are none. -/
def eventsByCreationTime (start stop : Timestamp) (limit : UInt64) : Action (List Event) :=
  getEventsLimit (.range "created" (.included start) (.included stop)) limit

/-- The difference of two times, at the end of the range where it would lie outside. So an age that
reaches back before all times is no error. -/
def saturatingSub (a b : Int64) : Int64 :=
  let d := a.toInt - b.toInt
  if d < -2 ^ 63 then Int64.minValue else if 2 ^ 63 ≤ d then Int64.maxValue else Int64.ofInt d

/-- Events older than `age` milliseconds. What lies exactly at the bound is not older. The time is
read once, before the store is asked. -/
def eventsOlderThanAge (age : Int64) : Action (List Event) := do
  let now ← Action.lift Program.clock
  getEvents (.range "created" .unbounded (.excluded (saturatingSub now age)))

/-- Events that have been passed on, which is what a positive time says. -/
def eventsPushed : Action (List Event) := getEvents (.range "pushed" (.excluded 0) .unbounded)

/-- How many events are stored. They are counted by the store, and none is loaded, so an event that
could not be read is counted too. -/
def eventCount : Action UInt64 := Action.call (.count .events .all)

/-- How many events of one device are stored. Nothing of them is loaded, so events that could not be
read are counted too. -/
def eventCountByDevice (device : String) : Action UInt64 :=
  Action.call (.count .events (.eq "device" (.string device)))

/-! ## Adding and changing -/

/-- Give readings fresh ids in order, and the time and device of their event. Whatever ids and times
they came with are lost. -/
def stampReadings (created : Timestamp) (device : String) : List Reading → Program (List Reading)
  | [] => pure []
  | r :: rs => do
    let id ← Program.takeId
    let rest ← stampReadings created device rs
    return { r with id := id, created := created, device := device } :: rest

/-- An event as it is added: with a fresh id, the present time, and stamped readings. The id of the
event is taken before those of its readings. -/
def stamp (e : Event) : Program Event := do
  let created ← Program.clock
  let id ← Program.takeId
  let readings ← stampReadings created e.device e.readings
  return { e with id := id, created := created, readings := readings }

/-- Store the readings of an event, if it has any, and then its record. If the second call fails the
readings stay behind. -/
def storeEvent (e : Event) : Action ObjectId := do
  if !e.readings.isEmpty then
    Action.call (.insert .readings (e.readings.map Reading.toDocument))
  Action.insertOne .events e.toRecord.toDocument
  return e.id

/-- Add an event. The event as it has been stamped is returned also when it could not be stored, for
its id and its readings have been taken by then. -/
def addEvent (e : Event) : Program (Event × Except StoreError ObjectId) := do
  let stamped ← stamp e
  let result ← (storeEvent stamped).run
  return (stamped, result)

/-- The fields of an event that an update sets: all but its id and the readings it names. What is
left out is not changed, so an update cannot detach a reading. -/
def updatedFields (e : Event) : Document :=
  (e.toRecord.toDocument.erase "readings").erase "id"

/-- Change the fields of a stored event. The readings it names stay as they are, whatever the given
event says of them. -/
def updateEvent (e : Event) : Action Unit := do
  let now ← Action.lift Program.clock
  Action.call (.update .events e.id (.set (updatedFields { e with modified := now })))

/-- Delete an event; its readings stay, and can still be found by their own ids. -/
def deleteEventById (text : String) : Action Unit := Action.deleteById .events text

/-- Delete all readings and then all events; the answer is how many of each. If the second call
fails the readings are gone. -/
def scrubAllEvents : Action (UInt64 × UInt64) := do
  let readings ← Action.call (.deleteAll .readings .all)
  let events ← Action.call (.deleteAll .events .all)
  return (events, readings)

end Telemetry.Client
