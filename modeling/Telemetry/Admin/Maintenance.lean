import Telemetry.Admin.CommandLine
import Telemetry.Admin.Failure
import Telemetry.Log
import Telemetry.Client.Readings
import Telemetry.Client.ValueDescriptors

/-!
# The maintenance commands

A command is a program over the store that ends with a report or a failure. What is written to the
log follows from the command and its end. Nothing is deleted by a command that has not been
confirmed.
-/

namespace Telemetry.Admin

/-- The number of documents of each collection. -/
structure Counts where
  events : UInt64
  readings : UInt64
  valueDescriptors : UInt64
deriving DecidableEq

/-- What a command has found or done, with the numbers that are printed or written to the log. -/
inductive Report where
  | reachable
  | deviceEvents (device : String) (n : UInt64)
  | counts (c : Counts)
  | eventsScrubbed (events readings : UInt64)
  | valueDescriptorsScrubbed (n : UInt64)

/-- The line that a report prints. The numbers of a deletion are not printed; they are in the log.
-/
def Report.line : Report → String
  | reachable => "ok"
  | deviceEvents device n => "events[" ++ device ++ "]=" ++ toString n
  | counts c => "events=" ++ toString c.events ++ " readings=" ++ toString c.readings ++
      " value_descriptors=" ++ toString c.valueDescriptors
  | eventsScrubbed .. => "events and readings removed"
  | valueDescriptorsScrubbed _ => "value descriptors removed"

/-- A program that may fail as the tool does. -/
abbrev Job (α : Type) := ExceptT Failure Program α

/-- Do a task of the store. Its error is kept, with the task it belongs to. -/
def attempt {α : Type} (t : Task) (a : Action α) : Job α := ExceptT.adapt (Failure.task t) a

/-- Go on only if the command of the given name has been confirmed. This comes before any store
call. -/
def confirm (confirmed : Bool) (name : String) : Job Unit :=
  if confirmed then pure () else throw (.unconfirmed name)

/-- Count the documents of the three collections, one after the other. The first count that fails
ends the command. -/
def count : Job Counts := do
  let events ← attempt .countEvents Client.eventCount
  let readings ← attempt .countReadings Client.readingCount
  let valueDescriptors ← attempt .countValueDescriptors Client.valueDescriptorCount
  return ⟨events, readings, valueDescriptors⟩

/-- Carry a command out. A deletion asks for its confirmation first, so without it no store call is
made. -/
def Command.run : Command → Job Report
  | ping => do
    attempt .ping (Action.call .ping)
    return .reachable
  | count (some device) => do
    let n ← attempt .countEvents (Client.eventCountByDevice device)
    return .deviceEvents device n
  | count none => do
    let c ← Admin.count
    return .counts c
  | scrubEvents confirmed => do
    confirm confirmed "scrub-events"
    let (events, readings) ← attempt .scrubEvents Client.scrubAllEvents
    return .eventsScrubbed events readings
  | scrubValueDescriptors confirmed => do
    confirm confirmed "scrub-value-descriptors"
    let n ← attempt .scrubValueDescriptors Client.scrubAllValueDescriptors
    return .valueDescriptorsScrubbed n

/-! ## The log of a command -/

/-- What a command writes to the log before its work. Only a confirmed deletion has something to
say. -/
def Command.warnings : Command → List Log.Record
  | scrubEvents true =>
    [.plain .warn "coredata_admin::commands" "Scrubbing all events and readings"]
  | scrubValueDescriptors true =>
    [.plain .warn "coredata_admin::commands" "Scrubbing all value descriptors"]
  | _ => []

/-- The counts as the log shows them, in the notation of a record. -/
def Counts.text (c : Counts) : String :=
  "CountReport \x7b events: " ++ toString c.events ++ ", readings: " ++ toString c.readings ++
    ", value_descriptors: " ++ toString c.valueDescriptors ++ " \x7d"

/-- What a report writes to the log. -/
def Report.records : Report → List Log.Record
  | counts c =>
    [{ level := .info, target := "coredata_admin::commands",
       fields := [("message", .string "Counted collections"), ("report", .string c.text)] }]
  | eventsScrubbed events readings =>
    [.inSpan "scrub_all_events" .debug "coredata_db::queries::events"
      ("Scrubbed " ++ toString events ++ " events and " ++ toString readings ++ " readings")]
  | valueDescriptorsScrubbed n =>
    [.inSpan "scrub_all_value_descriptors" .debug "coredata_db::queries::value_descriptors"
      ("Scrubbed " ++ toString n ++ " value descriptors")]
  | _ => []

/-- What a command writes to the log until it ends in the given way. A command that fails leaves
only its warnings. -/
def Command.records (c : Command) (result : Except Failure Report) : List Log.Record :=
  c.warnings ++
    match result with
    | .ok report => report.records
    | .error _ => []

end Telemetry.Admin
