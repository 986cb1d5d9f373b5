/-!
# What can go wrong between the program and a database server

The pool of connections, the connection itself, the server's answer to a statement, and the reading
of the rows it sends back.
-/

namespace Telemetry

/-- An error that the server reports for a statement. -/
structure ServerError where
  code : Nat
  /-- the five characters of the standard's error class -/
  sqlState : String
  text : String
deriving DecidableEq

namespace ServerError

/-- The codes by which the server reports a second row with one key. There are several, for it
matters to the server which statement and which kind of key it was. -/
def uniqueViolationCodes : List Nat := [1022, 1062, 1169, 1586, 1859]

/-- Whether the server has refused a second row with one key, which a caller can act upon. -/
def isUniqueViolation (e : ServerError) : Bool := uniqueViolationCodes.contains e.code

/-- The error as it is shown, with all that the server says of it. -/
def message (e : ServerError) : String :=
  "error returned from database: " ++ toString e.code ++ " (" ++ e.sqlState ++ "): " ++ e.text

end ServerError

/-- Why a statement has no answer that can be used. All kinds have a text, but only three of them
are told apart by the store: a missing row, a closed pool, and an error of the server that names a
second row with one key. -/
inductive LinkError where
  | noRow
  | poolClosed
  | poolTimedOut
  | workerCrashed
  | server (e : ServerError)
  | configuration (text : String)
  | io (text : String)
  | tls (text : String)
  | protocol (text : String)
  | typeNotFound (text : String)
  | columnNotFound (text : String)
  | columnIndex (index len : Nat)
  | columnDecode (index text : String)
  | encode (text : String)
  | decode (text : String)
  | anyDriver (text : String)
deriving DecidableEq

namespace LinkError

/-- The error as it is shown. -/
def message : LinkError → String
  | noRow => "no rows returned by a query that expected to return at least one row"
  | poolClosed => "attempted to acquire a connection on a closed pool"
  | poolTimedOut => "pool timed out while waiting for an open connection"
  | workerCrashed => "attempted to communicate with a crashed background worker"
  | server e => e.message
  | configuration t => "error with configuration: " ++ t
  | io t => "error communicating with database: " ++ t
  | tls t => "error occurred while attempting to establish a TLS connection: " ++ t
  | protocol t => "encountered unexpected or invalid data: " ++ t
  | typeNotFound t => "type named " ++ t ++ " not found"
  | columnNotFound t => "no column found for name: " ++ t
  | columnIndex index len =>
    "column index out of bounds: the len is " ++ toString len ++ ", but the index is " ++
      toString index
  | columnDecode index t => "error occurred while decoding column " ++ index ++ ": " ++ t
  | encode t => "error occurred while encoding a value: " ++ t
  | decode t => "error occurred while decoding: " ++ t
  | anyDriver t => "error in Any driver mapping: " ++ t

end LinkError

end Telemetry
