/-!
# The command line

The tool is called with a command and its options. The options of the tool stand before the command,
those of the command after it:

    [-c FILE | --config FILE] ping
    [-c FILE | --config FILE] count [--device NAME]
    [-c FILE | --config FILE] scrub-events [--yes]
    [-c FILE | --config FILE] scrub-value-descriptors [--yes]
    help [COMMAND]

Each of the two levels is read by one pass over its arguments. An option whose value is its own
argument waits for it, and is settled when the level needs its options again or ends: only then is a
missing, repeated or refused value noticed. A call for help on the way is answered first.
-/

namespace Telemetry.Admin

/-- What the tool is asked to do. -/
inductive Command where
  | ping
  /-- count the documents of every collection, or the events of one device -/
  | count (device : Option String)
  | scrubEvents (confirmed : Bool)
  | scrubValueDescriptors (confirmed : Bool)
deriving DecidableEq

/-- A command with the file of settings to use, if one is named. This is all that a command line can
say. -/
structure Invocation where
  config : Option String
  command : Command
deriving DecidableEq

/-- Why a command line is not carried out. -/
inductive Stop where
  /-- it asks for help -/
  | help
  /-- it is not a command line of the tool -/
  | usage
deriving DecidableEq

/-- The exit code of a run that stops here. Help that is asked for is no failure. -/
def Stop.exitCode : Stop → Nat
  | help => 0
  | usage => 2

/-! ## Arguments -/

/-- An argument by its form. -/
inductive Argument where
  /-- two dashes alone: no options follow -/
  | escape
  /-- `--name` or `--name=value` -/
  | long (name : String) (value : Option String)
  /-- `-c` with the text that follows the letter -/
  | short (letter : Char) (rest : List Char)
  | word (text : String)

/-- The form of an argument. A value may itself contain an equals sign; a single dash is a word. The
form alone does not say whether the tool has such an option. -/
def Argument.ofString (s : String) : Argument :=
  match s.toList with
  | ['-', '-'] => escape
  | '-' :: '-' :: cs =>
    let name := cs.takeWhile (· != '=')
    match cs.drop name.length with
    | [] => long (String.ofList name) none
    | _ :: value => long (String.ofList name) (some (String.ofList value))
  | '-' :: c :: cs => short c cs
  | _ => word s

/-! ## Options -/

/-- An option of a level. Which of them a level has is a list, so one pass can read both levels. -/
inductive Switch where
  | config
  | device
  | yes
  | help
deriving DecidableEq

namespace Switch

/-- The name after two dashes. -/
def name : Switch → String
  | config => "config"
  | device => "device"
  | yes => "yes"
  | help => "help"

/-- The letter after one dash, for the options that have one. -/
def letter? : Switch → Option Char
  | config => some 'c'
  | help => some 'h'
  | _ => none

/-- Whether a value belongs to the option. The others are flags. -/
def takesValue : Switch → Bool
  | config | device => true
  | yes | help => false

/-- Whether a text can be the value: a file has a name. -/
def accepts : Switch → String → Bool
  | config, value => !value.isEmpty
  | _, _ => true

end Switch

/-- What has been given at a level so far. At most one option waits for its value. -/
structure Given where
  /-- the options that are settled, a flag with an empty value -/
  settled : List (Switch × String)
  /-- the option that is not settled yet, with its value if that has been given -/
  waiting : Option (Switch × Option String)

namespace Given

/-- Nothing given yet. -/
def none : Given := ⟨[], .none⟩

/-- The value of an option that has been given. None is given twice, so there is only one. -/
def value? (g : Given) (s : Switch) : Option String :=
  (g.settled.find? fun e => e.1 = s).map (·.2)

/-- Whether an option has been given, with or without a value. -/
def has (g : Given) (s : Switch) : Bool := g.settled.any fun e => e.1 = s

/-- Settle an option; none is given twice, and a value that the option does not accept is refused.
-/
def add (g : Given) (s : Switch) (value : String) : Except Stop Given :=
  if g.has s || !s.accepts value then .error .usage
  else .ok { g with settled := g.settled ++ [(s, value)] }

/-- Settle the option that is waiting. One that is still without its value is refused here. -/
def settle (g : Given) : Except Stop Given :=
  match g.waiting with
  | .none => .ok g
  | some (_, .none) => .error .usage
  | some (s, some value) => { g with waiting := .none }.add s value

/-- Take up an option, with the value attached to it if there is one. The option that was waiting is
settled first, so its trouble is noticed before help is given. -/
def takeUp (g : Given) (s : Switch) (attached : Option String) : Except Stop Given := do
  match attached with
  | some value =>
    if !s.takesValue then throw .usage
    let g ← g.settle
    g.add s value
  | .none =>
    let g ← g.settle
    if s = .help then throw .help
    if s.takesValue then return { g with waiting := some (s, .none) } else g.add s ""

/-- The value in the text after the letter of an option: `-cFILE` and `-c=FILE` are the same. -/
def attachedValue : List Char → Option String
  | [] => .none
  | '=' :: cs => some (String.ofList cs)
  | cs => some (String.ofList cs)

/-- Take up an option written with a letter. A flag ends the letters, as none but help has one. -/
def takeUpLetter (g : Given) (switches : List Switch) (c : Char) (rest : List Char) :
    Except Stop Given :=
  match switches.find? fun s => s.letter? = some c with
  | .none => .error .usage
  | some s => g.takeUp s (if s.takesValue then attachedValue rest else .none)

/-- Take up an option written with its name, if the level has one of the name. Names are not
abbreviated. -/
def takeUpName (g : Given) (switches : List Switch) (name : String) (value : Option String) :
    Except Stop Given :=
  match switches.find? fun s => s.name = name with
  | .none => .error .usage
  | some s => g.takeUp s value

end Given

/-- Read the arguments of a level up to its end or to the first word that is no value. The result is
what has been given, and that word with the arguments after it; the option still waiting is not
settled here. -/
def readLevel (switches : List Switch) : Given → List String →
    Except Stop (Given × Option (String × List String))
  | g, [] => .ok (g, none)
  | g, arg :: args =>
    match Argument.ofString arg with
    | .escape => if args.isEmpty then .ok (g, none) else .error .usage
    | .long name value => do
      let g ← g.takeUpName switches name value
      readLevel switches g args
    | .short c rest => do
      let g ← g.takeUpLetter switches c rest
      readLevel switches g args
    | .word text =>
      match g.waiting with
      | some (s, .none) => readLevel switches { g with waiting := some (s, some text) } args
      | _ => .ok (g, some (text, args))

/-! ## Commands -/

/-- Read the arguments of a command, of which none may be a word. -/
def readOptions (switches : List Switch) (args : List String) : Except Stop Given := do
  match ← readLevel switches .none args with
  | (_, some _) => throw .usage
  | (g, none) => g.settle

/-- The names of the commands, that of help included. -/
def commandNames : List String :=
  ["ping", "count", "scrub-events", "scrub-value-descriptors", "help"]

/-- Read a command by its name. Every command has the option for help, and only those that delete
have the one that confirms. -/
def readCommand (name : String) (args : List String) : Except Stop Command :=
  match name with
  | "ping" => (readOptions [.help] args).map fun _ => .ping
  | "count" => (readOptions [.device, .help] args).map fun g => .count (g.value? .device)
  | "scrub-events" => (readOptions [.yes, .help] args).map fun g => .scrubEvents (g.has .yes)
  | "scrub-value-descriptors" =>
    (readOptions [.yes, .help] args).map fun g => .scrubValueDescriptors (g.has .yes)
  | "help" =>
    match args with
    | [] => .error .help
    | [topic] => .error (if commandNames.contains topic then .help else .usage)
    | _ => .error .usage
  | _ => .error .usage

/-- Read a whole command line, without the name of the tool. The options of the tool are settled
after the command has been read, so trouble within the command is noticed first. -/
def Invocation.parse (args : List String) : Except Stop Invocation := do
  let (g, rest) ← readLevel [.config, .help] .none args
  match rest with
  | none => throw .usage
  | some (name, args) =>
    let command ← readCommand name args
    let g ← g.settle
    return ⟨g.value? .config, command⟩

end Telemetry.Admin
