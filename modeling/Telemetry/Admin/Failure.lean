import Telemetry.Settings.Loading
import Telemetry.StoreError

/-!
# Failures of the tool

A failure says what the tool was about, and beneath it what went wrong there. On one line the
messages are joined by colons; the report lists the causes under the first message, with numbers if
there are several.
-/

namespace Telemetry.Admin

/-- A step of a command that needs the store. -/
inductive Task where
  | ping
  | countEvents
  | countReadings
  | countValueDescriptors
  | scrubEvents
  | scrubValueDescriptors
deriving DecidableEq

/-- What is said of a task that fails. -/
def Task.complaint : Task → String
  | ping => "Database ping failed"
  | countEvents => "Failed to count events"
  | countReadings => "Failed to count readings"
  | countValueDescriptors => "Failed to count value descriptors"
  | scrubEvents => "Failed to scrub events"
  | scrubValueDescriptors => "Failed to scrub value descriptors"

/-- Why the tool fails. Every case keeps the error it comes from, so a report never says less than
the store did. -/
inductive Failure where
  /-- a command that deletes data has not been confirmed -/
  | unconfirmed (name : String)
  | task (t : Task) (e : StoreError)
  /-- the settings cannot be loaded, from the named file if one is to blame -/
  | settings (about : Option String) (e : SettingsError)
  /-- a setting of the environment is invalid beside a named file -/
  | environment (e : SettingsError)
  | connection (e : StoreError)
  | unsupportedStore (dbType : String)

namespace Failure

/-- The messages, the outermost first. Every message stands on its own; only the two ways to show a
failure join them. -/
def chain : Failure → List String
  | unconfirmed name => [name ++ " deletes data permanently; pass --yes to proceed"]
  | task t e => [t.complaint, e.message]
  | settings none e => "Failed to load configuration" :: e.chain
  | settings (some path) e => ("Failed to load " ++ path) :: e.chain
  | environment e => e.chain
  | connection e => ["Failed to connect to database", e.message]
  | unsupportedStore dbType => ["Unsupported db_type " ++ Text.quoted dbType]

/-- The failure on one line, the outermost message first. -/
def line (f : Failure) : String := ": ".intercalate f.chain

/-- A cause in the report: its lines are indented, the first behind the number if there is one. -/
def reportedCause (number : Option Nat) (message : String) : String :=
  let lead := match number with
    | some n => String.ofList (List.replicate (5 - (toString n).length) ' ') ++ toString n ++ ": "
    | none => "    "
  let indent := "\n" ++ String.ofList (List.replicate lead.length ' ')
  "\n" ++ lead ++ indent.intercalate (message.splitOn "\n")

/-- The causes beneath the first message, numbered from 0 unless there is only one. -/
def reportedCauses : List String → String
  | [] => ""
  | [cause] => "\n\nCaused by:" ++ reportedCause none cause
  | causes =>
    "\n\nCaused by:" ++
      String.join (causes.zipIdx.map fun (cause, i) => reportedCause (some i) cause)

/-- The report of the failure. A failure with one message has no causes to list. -/
def report (f : Failure) : String :=
  match f.chain with
  | [] => ""
  | top :: causes => "Error: " ++ top ++ reportedCauses causes ++ "\n"

end Failure

end Telemetry.Admin
