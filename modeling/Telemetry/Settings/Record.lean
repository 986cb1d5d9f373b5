import Telemetry.Settings.Database

/-!
# The settings of the service

All settings stand in one flat record. Every one has a usual value, so any of them may be left out
where settings are given.
-/

namespace Telemetry

/-- The settings of the service and of what it talks to. The values given here are the usual ones,
and they stand here only. -/
structure Settings where
  hostname : String := "localhost"
  port : UInt16 := 48080
  /-- the kind of store: `mysql` or `memory` -/
  dbType : String := "mysql"
  dbHost : String := "localhost"
  dbUsername : String := "core"
  dbPassword : String := ""
  dbDatabase : String := "coredata"
  dbPort : UInt16 := 3306
  /-- milliseconds -/
  dbConnectTimeout : UInt64 := 5000
  /-- milliseconds -/
  dbSocketTimeout : UInt64 := 5000
  consulHost : String := "localhost"
  consulPort : UInt16 := 8500
  checkInterval : String := "10s"
  consulProfilesActive : String := "default"
  distroHost : String := "localhost"
  distroPort : UInt16 := 48070
deriving DecidableEq

namespace Settings

/-- The fields in the order in which they are written. The names are those that a file uses. -/
def fields (s : Settings) : List (String × Json.Value) :=
  [("hostname", .string s.hostname), ("port", .ofNat s.port.toNat), ("db_type", .string s.dbType),
    ("db_host", .string s.dbHost), ("db_username", .string s.dbUsername),
    ("db_password", .string s.dbPassword), ("db_database", .string s.dbDatabase),
    ("db_port", .ofNat s.dbPort.toNat), ("db_connect_timeout", .ofUInt64 s.dbConnectTimeout),
    ("db_socket_timeout", .ofUInt64 s.dbSocketTimeout), ("consul_host", .string s.consulHost),
    ("consul_port", .ofNat s.consulPort.toNat), ("check_interval", .string s.checkInterval),
    ("consul_profiles_active", .string s.consulProfilesActive),
    ("distro_host", .string s.distroHost), ("distro_port", .ofNat s.distroPort.toNat)]

/-- Settings as a value, the password in the clear. So the value is not meant for the log. -/
def toJson (s : Settings) : Json.Value := .object s.fields

open Json.Fields Json.Decoder in
/-- Nothing must be given: every field takes its value from the usual settings where it is left out.
-/
def layout : Json.Fields Settings :=
  let usual : Settings := {}
  mk <$> optional "hostname" string usual.hostname <*> optional "port" uint16 usual.port
    <*> optional "db_type" string usual.dbType <*> optional "db_host" string usual.dbHost
    <*> optional "db_username" string usual.dbUsername
    <*> optional "db_password" string usual.dbPassword
    <*> optional "db_database" string usual.dbDatabase <*> optional "db_port" uint16 usual.dbPort
    <*> optional "db_connect_timeout" uint64 usual.dbConnectTimeout
    <*> optional "db_socket_timeout" uint64 usual.dbSocketTimeout
    <*> optional "consul_host" string usual.consulHost
    <*> optional "consul_port" uint16 usual.consulPort
    <*> optional "check_interval" string usual.checkInterval
    <*> optional "consul_profiles_active" string usual.consulProfilesActive
    <*> optional "distro_host" string usual.distroHost
    <*> optional "distro_port" uint16 usual.distroPort

/-- The reader of settings. What is missing takes its usual value, and what it does not know is
passed over. -/
def decoder : Json.Decoder Settings := Json.Fields.record "ConfigurationStruct" layout

/-- The part of the settings that says where the database is. The time a connection may take is the
one for connecting, not the one for the socket. -/
def database (s : Settings) : DatabaseSettings where
  host := s.dbHost
  port := s.dbPort
  databaseName := s.dbDatabase
  username := s.dbUsername
  password := s.dbPassword
  timeout := s.dbConnectTimeout

/-- The address of the distribution service. It is not asked whether the host can be part of one. -/
def distroUrl (s : Settings) : String :=
  "http://" ++ s.distroHost ++ ":" ++ toString s.distroPort.toNat

end Settings

end Telemetry
