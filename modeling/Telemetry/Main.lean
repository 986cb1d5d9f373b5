import Telemetry.Admin.Tool

/-!
# The maintenance tool on the command line

This is the only module that reads files and the environment or prints. It gathers what a run finds
around it, and shows the outcome: log records and the printed line on the standard output, help and
failures on the error output. No network is built in, so every database server is out of reach.
-/

namespace Telemetry.Admin

/-- The variables of the environment that a run looks at. -/
def variableNames : List String :=
  "COREDATA_CONFIG" :: "RUST_LOG" :: Settings.Variable.all.map Settings.Variable.key

/-- The texts of the given variables. Others are not looked up, so a run cannot depend on them. -/
def readEnvironment (names : List String) : IO Environment := do
  let texts ← names.mapM fun name => return (name, ← IO.getEnv name)
  return fun key => (texts.lookup key).join

/-- What stands under the name of a file; what cannot be read counts as missing. -/
def readFile (path : String) : IO FileContent := do
  try
    let content ← IO.FS.readBinFile path
    return .bytes content
  catch
    | .inappropriateType _ 21 _ => return .directory
    | .inappropriateType .. => return .missing .throughFile
    | .invalidArgument .. => return .missing .longName
    | _ => return .missing .unknown

/-- The file a command line needs, if it needs one. -/
def fileOf (env : Environment) (args : List String) : Option String :=
  match Invocation.parse args with
  | .ok i => some (i.config.getD (Settings.path env))
  | .error _ => none

/-- What is shown for a command line that asks for help or is not accepted. -/
def usageText : String :=
  "Usage: telemetry-admin [-c FILE] COMMAND\n\n" ++
  "Commands:\n" ++
  "  ping                             check that the database is reachable\n" ++
  "  count [--device NAME]            print the number of documents\n" ++
  "  scrub-events [--yes]             delete every event and reading\n" ++
  "  scrub-value-descriptors [--yes]  delete every value descriptor\n"

/-- The server of a build without a network: every attempt to connect fails at once. -/
def unreachable : Sql.Session := .start (.down (.io "Network is unreachable (os error 101)"))

/-- Run the tool in the process and show the outcome. Everything is decided by `run`; here it is
only given its inputs and printed. -/
def runHere (args : List String) : IO UInt32 := do
  let env ← readEnvironment variableNames
  let content ← match fileOf env args with
    | some path => readFile path
    | none => pure (.missing .unknown)
  -- no command takes an id or reads the clock
  let outcome := run ⟨env, fun _ => content, unreachable, ⟨0, fun _ => .nil⟩⟩ args
  for c in outcome.complaints do
    IO.eprintln c.message
  for r in outcome.log do
    IO.println r.toJson.compact
  match Invocation.parse args with
  | .error .help => IO.print usageText
  | .error .usage => IO.eprint usageText
  | .ok _ => pure ()
  for text in outcome.output do
    IO.println text
  for f in outcome.failure do
    IO.eprint f.report
  return UInt32.ofNat outcome.code

end Telemetry.Admin

/-- The program: it runs the tool in the process. -/
def main (args : List String) : IO UInt32 := Telemetry.Admin.runHere args
