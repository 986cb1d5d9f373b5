import Telemetry.LinkError
import Telemetry.Sql.Statement

/-!
# A database server at the end of a link

The server takes statements one after another and answers each from a script. The session keeps what
has been sent, so that everything a store does to the server can be read off afterwards.

A reply is taken for what it is, whatever the statement was after: rows are no change, so a change
that is answered by rows has changed none of them, and a number of changes is no row. A statement
beyond the script is acknowledged, and nothing more. A value is read only from a column of a type
that suits it; any other value is an error of the column.
-/

namespace Telemetry.Sql

/-- A value in a row that the server sends. A text stands in a column of the type `TEXT` and a whole
number in one of the type `BIGINT`, which are the types of what is asked for here. Any other value
is kept by its type alone: that is all an error says of it. -/
inductive Cell where
  | text (s : String)
  | integer (n : Int64)
  | null
  /-- a value of another type, by the name that the server has for the type -/
  | other (type : String := "DOUBLE")
deriving DecidableEq

namespace Cell

/-- The type of the column in which a value stands, as an error names it. -/
def type : Cell → String
  | text _ => "TEXT"
  | integer _ => "BIGINT"
  | null => "NULL"
  | other type => type

/-- What is wrong with a value that cannot be read: there is none, or its type does not suit the
type that is wanted, which the program calls `wanted` and the server `sqlWanted`. -/
def refusal (column wanted sqlWanted : String) (cell : Cell) : LinkError :=
  .columnDecode ("\"" ++ column ++ "\"") <|
    match cell with
    | null => "unexpected null; try decoding as an `Option`"
    | cell => "mismatched types; Rust type `" ++ wanted ++ "` (as SQL type `" ++ sqlWanted ++
      "`) is not compatible with SQL type `" ++ cell.type ++ "`"

end Cell

/-- What the server answers to a statement. Any statement may be answered in any of these ways: the
store relies on no agreement between a statement and its reply. -/
inductive Reply where
  | failure (e : ServerError)
  /-- the rows of a query, each with a single value -/
  | rows (cells : List Cell)
  /-- the number of rows changed -/
  | affected (n : UInt64)
deriving DecidableEq

/-- The way to the server. It does not change but by closing the store, so a call that gets no
connection will get none later either. -/
inductive Link where
  | ready
  /-- every attempt to connect fails in this way -/
  | down (e : LinkError)
  | closed
deriving DecidableEq

/-- The state of a session with the server: the answers to come, and all that has been sent. -/
structure Session where
  link : Link
  /-- the answers to the statements to come -/
  replies : List Reply
  /-- how the server refuses to begin a transaction, if it does -/
  beginFailure : Option ServerError
  /-- how the server refuses to commit one, if it does -/
  commitFailure : Option ServerError
  /-- the statements sent so far, in order -/
  sent : List Statement

namespace Session

/-- A session in which nothing has been sent and to which nothing is answered. Statements over it
are acknowledged. -/
def start (link : Link) : Session := ⟨link, [], none, none, []⟩

/-- Send a statement that takes no reply from the script, as those that begin and end a transaction
do. Whether these are refused is fixed beforehand, so that the replies stay those of the work. -/
def record (s : Statement) (x : Session) : Session := { x with sent := x.sent ++ [s] }

/-- Send a statement and take the reply to it, if there is one left. The statement counts as sent
whatever the reply is, a failure included. -/
def send (s : Statement) (x : Session) : Option Reply × Session :=
  (x.replies.head?, { x.record s with replies := x.replies.tail })

/-- Work that may fail and uses the session. What has been sent by then stays sent: an error does
not take the session back. -/
abbrev Work (α : Type) := Session → Except LinkError α × Session

/-- Take a connection from the pool. Nothing is sent for it, and nothing is changed by it; a closed
pool has an error of its own, which callers can tell from a server that cannot be reached. -/
def acquire : Work Unit := fun x =>
  match x.link with
  | .ready => (.ok (), x)
  | .down e => (.error e, x)
  | .closed => (.error .poolClosed, x)

/-- Send a statement that changes rows; the answer is their number, which is zero unless the reply
gives one. -/
def execute (s : Statement) : Work UInt64 := fun x =>
  match x.send s with
  | (some (.failure e), x) => (.error (.server e), x)
  | (some (.affected n), x) => (.ok n, x)
  | (_, x) => (.ok 0, x)

/-- Send a query; the answer is the value of each row. Without a result set there are no rows, which
is not an error: a query may well find nothing. -/
def query (s : Statement) : Work (List Cell) := fun x =>
  match x.send s with
  | (some (.failure e), x) => (.error (.server e), x)
  | (some (.rows cells), x) => (.ok cells, x)
  | (_, x) => (.ok [], x)

/-- The number in the row of a counting query. A value that is no whole number is never taken for a
count: nothing may be deleted because of a row that could not be read. -/
def cellCount : Cell → Except LinkError Int64
  | .integer n => .ok n
  | cell => .error (cell.refusal "count" "i64" "BIGINT")

/-- Send a counting query and read the first row of the reply. There must be one, so a reply of
another kind is as bad as one without rows. -/
def queryCount (s : Statement) : Work Int64 := fun x =>
  match x.send s with
  | (some (.failure e), x) => (.error (.server e), x)
  | (some (.rows (cell :: _)), x) => (cellCount cell, x)
  | (_, x) => (.error .noRow, x)

/-- Begin a transaction. If the server refuses, there is none to be given up, so nothing more is
sent. -/
def begin : Work Unit := fun x =>
  match x.beginFailure with
  | some e => (.error (.server e), x.record (.plain "BEGIN"))
  | none => (.ok (), x.record (.plain "BEGIN"))

/-- Commit the transaction. If the server refuses, the transaction is still open, and it is left to
the caller to give it up. -/
def commit : Work Unit := fun x =>
  match x.commitFailure with
  | some e => (.error (.server e), x.record (.plain "COMMIT"))
  | none => (.ok (), x.record (.plain "COMMIT"))

/-- Give the transaction up. No answer is waited for, as the error that has led here is the one to
be told. -/
def rollback (x : Session) : Session := x.record (.plain "ROLLBACK")

/-- Do work in a transaction: it is committed if the work succeeds, and given up if the work or the
commit fails. The error is that of the step that has failed first. -/
def transaction (work : Work Unit) : Work Unit := fun x =>
  match begin x with
  | (.error e, x) => (.error e, x)
  | (.ok (), x) =>
    match work x with
    | (.error e, x) => (.error e, x.rollback)
    | (.ok (), x) =>
      match commit x with
      | (.error e, x) => (.error e, x.rollback)
      | (.ok (), x) => (.ok (), x)

/-- Execute statements one after another, stopping at the first that fails. How many rows each of
them changes makes no difference. -/
def executeAll : List Statement → Work Unit
  | [], x => (.ok (), x)
  | s :: rest, x =>
    match execute s x with
    | (.error e, x) => (.error e, x)
    | (.ok _, x) => executeAll rest x

end Session

end Telemetry.Sql
