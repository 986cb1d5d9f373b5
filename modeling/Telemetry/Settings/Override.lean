import Telemetry.Settings.Record
import Telemetry.Text.Natural
import Telemetry.Text.Quoted

/-!
# Settings from the environment

Seven variables of the environment override the database settings. They are looked at in a fixed
order; the first with a text that is not of its kind stops the overriding, and what has been set
before it stays set.
-/

namespace Telemetry

/-- The texts of the variables that are set. A variable that is set to an empty text is set. -/
abbrev Environment := String → Option String

namespace Settings

/-- A variable that overrides a setting. Not every setting has one, and those that are left out keep
what the file says. -/
inductive Variable where
  | type
  | host
  | port
  | database
  | username
  | password
  | connectTimeout
deriving DecidableEq

namespace Variable

/-- The variables in the order in which they are looked at, which decides which invalid one is told.
-/
def all : List Variable := [type, host, port, database, username, password, connectTimeout]

/-- No variable is left out of the list. -/
theorem mem_all (v : Variable) : v ∈ all := by cases v <;> decide

/-- The name in the environment. -/
def key : Variable → String
  | type => "COREDATA_DB_TYPE"
  | host => "COREDATA_DB_HOST"
  | port => "COREDATA_DB_PORT"
  | database => "COREDATA_DB_DATABASE"
  | username => "COREDATA_DB_USERNAME"
  | password => "COREDATA_DB_PASSWORD"
  | connectTimeout => "COREDATA_DB_CONNECT_TIMEOUT"

end Variable

/-- The settings with the text of one variable put in, or nothing if the text is not of its kind.
The five texts are taken as they are, also when empty. -/
def assign (v : Variable) (text : String) (s : Settings) : Option Settings :=
  match v with
  | .type => some { s with dbType := text }
  | .host => some { s with dbHost := text }
  | .port => (Text.naturalBelow? (2 ^ 16) text).map fun n => { s with dbPort := UInt16.ofNat n }
  | .database => some { s with dbDatabase := text }
  | .username => some { s with dbUsername := text }
  | .password => some { s with dbPassword := text }
  | .connectTimeout =>
    (Text.naturalBelow? (2 ^ 64) text).map fun n =>
      { s with dbConnectTimeout := UInt64.ofNat n }

/-- A variable whose text is not of its kind, with the text for the message. -/
structure Invalid where
  which : Variable
  text : String
deriving DecidableEq

/-- The message names the variable as it stands in the environment and quotes its text. -/
def Invalid.message (i : Invalid) : String :=
  "Invalid value for " ++ i.which.key ++ ": " ++ Text.quoted i.text

/-- Override settings by the given variables in turn, as far as their texts allow. The settings are
returned also after an error, for what has been put in before it is in them. -/
def overrideBy (env : Environment) : List Variable → Settings → Except Invalid Unit × Settings
  | [], s => (.ok (), s)
  | v :: vs, s =>
    match env v.key with
    | none => overrideBy env vs s
    | some text =>
      match s.assign v text with
      | none => (.error ⟨v, text⟩, s)
      | some s => overrideBy env vs s

/-- Override settings by the environment, all seven variables in their order. -/
def override (env : Environment) (s : Settings) : Except Invalid Unit × Settings :=
  overrideBy env Variable.all s

end Settings

end Telemetry
