import Telemetry.Admin.Maintenance
import Telemetry.Log.Filter
import Telemetry.Memory
import Telemetry.Sql.Store

/-!
# The tool as a whole

One run of the tool reads its command line, loads the settings, opens the store they name, carries
the command out and closes the store. Everything the run finds around it is given beforehand, and
everything it does is in its outcome, so a run is a function.
-/

namespace Telemetry.Admin

/-- What a run finds around it: everything from outside that a run could depend on. -/
structure Host where
  env : Environment
  files : String → FileContent
  /-- the way to the database server -/
  server : Sql.Session
  around : Surroundings

/-- What a run does: everything of it that can be seen from outside, in the store apart. -/
structure Outcome where
  code : Nat
  /-- the line printed -/
  output : Option String
  /-- the records of the log -/
  log : List Log.Record
  /-- what the filter of the log has to complain of -/
  complaints : List Log.Filter.Complaint
  failure : Option Failure
  /-- the statements sent to the server -/
  sent : List Sql.Statement

namespace Outcome

/-- The outcome of a command line that is not carried out. -/
def stopped (s : Stop) : Outcome := ⟨s.exitCode, none, [], [], none, []⟩

/-- The outcome of a run that fails: nothing is printed, and the failure is reported. What has been
sent to the server by then is kept. -/
def failed (log : List Log.Record) (f : Failure) (sent : List Sql.Statement) : Outcome :=
  ⟨1, none, log, [], some f, sent⟩

/-- The outcome of a command that has been run. -/
def ofResult (log : List Log.Record) (sent : List Sql.Statement) :
    Except Failure Report → Outcome
  | .ok report => ⟨0, some report.line, log, [], none, sent⟩
  | .error f => failed log f sent

end Outcome

/-- The settings of a run: of the file named on the command line, or of the one looked for. Only a
file that is named must be there. -/
def loadSettings (host : Host) : Option String → Except Failure Settings
  | none => (Settings.load host.files host.env).mapError (.settings none)
  | some path =>
    match Settings.ofFile (host.files path) with
    | .error e => .error (.settings (some path) e)
    | .ok s => (s.overridden host.env).mapError .environment

namespace Milestone

/-- The first record of every run, written before the settings are known. -/
def started : Log.Record where
  level := .info
  target := "coredata_obs"
  fields := [("message", .string "Logging initialized"), ("service", .string "coredata-admin")]

/-- The record after the settings have been loaded. The password is not in it. -/
def loaded (s : Settings) : Log.Record where
  level := .info
  target := "coredata_admin"
  fields := [("message", .string "Loaded configuration"), ("db_type", .string s.dbType),
    ("host", .string s.dbHost)]

/-- The record before the server is called. -/
def connecting (s : DatabaseSettings) : Log.Record :=
  .plain .info "coredata_db::client"
    ("Connecting to database at " ++ s.host ++ ":" ++ toString s.port.toNat ++ "/" ++
      s.databaseName)

/-- A connection that fails is noted; other trouble with opening the store is not. -/
def refused : StoreError → List Log.Record
  | .connection text =>
    [.plain .error "coredata_db::client"
      ("Error connecting to the database: " ++ (StoreError.connection text).message)]
  | _ => []

/-- The record after the tables have been made or found. -/
def ready : Log.Record :=
  .inSpan "ensure_schema" .info "coredata_db::mysql" "Collection tables ready"

/-- The record after the store has been closed, which every run that has opened one comes to. -/
def closed : Log.Record := .plain .info "coredata_db::client" "Database session closed"

end Milestone

/-- Run a command on an open store, and close it. It is closed also when the command fails, and
closing cannot fail. -/
def runOn {σ : Type} (b : Backend σ) (around : Surroundings) (store : σ) (c : Command) :
    Except Failure Report × List Log.Record × σ :=
  let (result, w) := Program.exec b around c.run ⟨store, 0⟩
  (result, c.records result ++ [Milestone.closed], w.store)

/-- Run a command on the store that the settings name. A store in memory is made for the run and is
gone after it; the server is connected to first, and its tables are set up. -/
def runWith (host : Host) (s : Settings) (c : Command) (log : List Log.Record) : Outcome :=
  match s.dbType with
  | "memory" =>
    let (result, more, _) := runOn Memory.backend host.around .empty c
    .ofResult (log ++ more) [] result
  | "mysql" =>
    let log := log ++ [Milestone.connecting s.database]
    match Sql.openStore s.dbConnectTimeout host.server with
    | (.error e, x) => .failed (log ++ Milestone.refused e) (.connection e) x.sent
    | (.ok (), x) =>
      let (result, more, x) := runOn Sql.backend host.around x c
      .ofResult (log ++ [Milestone.ready] ++ more) x.sent result
  | other => .failed log (.unsupportedStore other) []

/-- The filter of the log, which the environment may set, and what is wrong with its text. -/
def logFilter (env : Environment) : Log.Filter × List Log.Filter.Complaint :=
  Log.Filter.read ((env "RUST_LOG").getD "info,coredata=debug")

/-- Carry a command line out, with all records of the log. They are not filtered yet. -/
def carryOut (host : Host) (i : Invocation) : Outcome :=
  let log := [Milestone.started]
  match loadSettings host i.config with
  | .error f => .failed log f []
  | .ok s => runWith host s i.command (log ++ [Milestone.loaded s])

/-- Run the tool on its arguments. A command line that is not understood touches neither files nor
store. -/
def run (host : Host) (args : List String) : Outcome :=
  match Invocation.parse args with
  | .error s => .stopped s
  | .ok i =>
    let o := carryOut host i
    let (filter, complaints) := logFilter host.env
    { o with log := o.log.filter filter.lets, complaints }

end Telemetry.Admin
