import Telemetry.Json.Decoder

/-!
# Where the database is

The settings of a database connection, and the options a connection is opened with. The two differ
in the password: settings without one have an empty text, options have none.
-/

namespace Telemetry

/-- What has to be known to open the database. It is part of the settings of the service, and can
also be given by itself. -/
structure DatabaseSettings where
  host : String := "localhost"
  port : UInt16 := 3306
  databaseName : String := "coredata"
  username : String := "core"
  password : String := ""
  /-- the time a connection may take, in milliseconds -/
  timeout : UInt64 := 5000
deriving DecidableEq

/-- The options of a connection, as the driver takes them. The time it may take belongs to the pool
and is not among them. -/
structure ConnectOptions where
  host : String
  port : UInt16
  username : String
  password : Option String
  database : String
deriving DecidableEq

namespace DatabaseSettings

/-- The fields in the order in which they are written. -/
def fields (s : DatabaseSettings) : List (String × Json.Value) :=
  [("host", .string s.host), ("port", .ofNat s.port.toNat),
    ("database_name", .string s.databaseName), ("username", .string s.username),
    ("password", .string s.password), ("timeout", .ofUInt64 s.timeout)]

/-- Database settings as a value, the password in the clear. -/
def toJson (s : DatabaseSettings) : Json.Value := .object s.fields

open Json.Fields Json.Decoder in
/-- Nothing must be given. -/
def layout : Json.Fields DatabaseSettings :=
  let usual : DatabaseSettings := {}
  mk <$> optional "host" string usual.host <*> optional "port" uint16 usual.port
    <*> optional "database_name" string usual.databaseName
    <*> optional "username" string usual.username <*> optional "password" string usual.password
    <*> optional "timeout" uint64 usual.timeout

/-- The reader of database settings. What is missing takes its usual value. -/
def decoder : Json.Decoder DatabaseSettings := Json.Fields.record "DbConfiguration" layout

end DatabaseSettings

namespace ConnectOptions

/-- The options for a database of which only the name is given. The rest is as usual, without a
password. -/
def forDatabase (database : String) : ConnectOptions :=
  let usual : DatabaseSettings := {}
  ⟨usual.host, usual.port, usual.username, none, database⟩

/-- The options of settings; an empty password is none. The server can tell the two apart. -/
def ofSettings (s : DatabaseSettings) : ConnectOptions where
  host := s.host
  port := s.port
  username := s.username
  password := if s.password.isEmpty then none else some s.password
  database := s.databaseName

end ConnectOptions

end Telemetry
