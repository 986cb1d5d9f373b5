import Telemetry.Settings.Override
import Telemetry.Toml.Json
import Telemetry.Toml.Reader

/-!
# Loading settings

Settings are read from a TOML file and then overridden by the environment. A file that is asked for
must be there; a file that is only looked for may be missing, and then the usual settings hold. The
text is read by the decoder of JSON settings.
-/

namespace Telemetry

/-! ## Files -/

/-- Why nothing stands under a name. -/
inductive Absence where
  | unknown
  /-- the name leads through a file as if that were a directory -/
  | throughFile
  | longName
deriving DecidableEq

/-- The text of the system for the error. -/
def Absence.message : Absence → String
  | unknown => "No such file or directory (os error 2)"
  | throughFile => "Not a directory (os error 20)"
  | longName => "File name too long (os error 36)"

/-- What stands under the name of a file. That nothing can be read has several reasons, and the
message tells them apart. -/
inductive FileContent where
  | missing (why : Absence)
  | directory
  | bytes (content : ByteArray)

/-- Why a file has no text. -/
inductive FileError where
  | missing (why : Absence)
  | directory
  | notText
deriving DecidableEq

/-- The text for a file that cannot be read. The first three are those of the system. -/
def FileError.message : FileError → String
  | missing why => why.message
  | directory => "Is a directory (os error 21)"
  | notText => "stream did not contain valid UTF-8"

/-- The text of a file, if all of it is text. -/
def FileContent.text : FileContent → Except FileError String
  | missing why => .error (.missing why)
  | directory => .error .directory
  | bytes content =>
    match String.fromUTF8? content with
    | some s => .ok s
    | none => .error .notText

/-! ## Settings -/

/-- Why settings cannot be loaded. The file comes before the environment, so at most one of these is
told. -/
inductive SettingsError where
  /-- a text that is not TOML, or not that of settings -/
  | toml
  | file (e : FileError)
  | invalid (i : Settings.Invalid)
deriving DecidableEq

namespace SettingsError

/-- The message and, beneath it, those of the causes. -/
def chain : SettingsError → List String
  | toml => ["Invalid TOML: not a table of settings", "not a table of settings"]
  | file e => ["IO error: " ++ e.message, e.message]
  | invalid i => [i.message]

end SettingsError

namespace Settings

/-- The settings written in a text. A text that is TOML but not that of settings is refused just as
one that is no TOML. -/
def ofToml? (text : String) : Option Settings :=
  (Toml.read text).bind fun es => (decoder.decode (.object (Toml.entriesToJson es))).toOption

/-- The settings of a file that must be there. An empty file holds the usual settings. -/
def ofFile (f : FileContent) : Except SettingsError Settings :=
  match f.text with
  | .error e => .error (.file e)
  | .ok text =>
    match ofToml? text with
    | some s => .ok s
    | none => .error .toml

/-- The settings of a file that may be missing. Only a missing file is excused, not one that cannot
be read. -/
def ofFileIfThere : FileContent → Except SettingsError Settings
  | .missing _ => .ok {}
  | f => ofFile f

/-- The settings overridden by the environment, or the first variable that is invalid. Settings with
only some of the variables put in are not given out. -/
def overridden (env : Environment) (s : Settings) : Except SettingsError Settings :=
  match s.override env with
  | (.ok (), s) => .ok s
  | (.error i, _) => .error (.invalid i)

/-- The name of the file that settings are looked for in. The environment may name one, and
otherwise it is looked for where the program is run. -/
def path (env : Environment) : String := (env "COREDATA_CONFIG").getD "configuration.toml"

/-- The settings of the file that is looked for, overridden by the environment. The file may be
missing although the environment has named it. -/
def load (files : String → FileContent) (env : Environment) : Except SettingsError Settings := do
  let s ← ofFileIfThere (files (path env))
  s.overridden env

end Settings

end Telemetry
