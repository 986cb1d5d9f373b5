import Telemetry.Chunks
import Telemetry.Json.Reader
import Telemetry.Program
import Telemetry.Sql.Server
import Telemetry.Sql.Table

/-!
# The SQL store

The store answers each call with statements over a connection of its own. A statement is put
together before a connection is taken, so a call that cannot be written as SQL fails without one.
An empty batch is stored without the server; a batch of documents is stored in one transaction.
-/

namespace Telemetry.Sql

/-- Do work over a connection, and report its errors as errors of the store. Without a connection
the work is not begun, so nothing is sent. -/
def connected {α : Type} (work : Session.Work α) (x : Session) : Except StoreError α × Session :=
  match Session.acquire x with
  | (.error e, x) => (.error (.ofLink e), x)
  | (.ok (), x) =>
    match work x with
    | (.error e, x) => (.error (.ofLink e), x)
    | (.ok a, x) => (.ok a, x)

/-- Go on with a statement if it could be put together; otherwise the session is not used at all,
and not even a closed pool is noticed. -/
def withStatement {α : Type} (s : Except StoreError Statement)
    (k : Statement → Session → Except StoreError α × Session) (x : Session) :
    Except StoreError α × Session :=
  match s with
  | .error e => (.error e, x)
  | .ok s => k s x

/-- The document in a row: the column holds a text, and the text is that of an object. A column that
holds something else is an error of the link, and a text that is no document one of the data. -/
def cellDocument : Cell → Except StoreError Document
  | .text s =>
    match Json.Value.read s with
    | .ok v =>
      match Document.ofValue? v with
      | some d => .ok d
      | none => .error (.unexpected .text)
    | .error _ => .error (.unexpected .text)
  | cell => .error (.ofLink (cell.refusal "doc" "alloc::string::String" "VARCHAR"))

/-- The documents in rows, up to the first row without one. One row that cannot be read makes the
whole answer an error. -/
def cellDocuments : List Cell → Except StoreError (List Document)
  | [] => .ok []
  | cell :: cells => do
    let d ← cellDocument cell
    let ds ← cellDocuments cells
    return d :: ds

/-- How a query for documents is answered: one statement, whose rows are read in order. The limit is
part of the statement, so no row is read only to be dropped, and one row that cannot be read makes
the answer an error. -/
def find (c : Collection) (f : Filter) (limit : Option UInt64) (x : Session) :
    Except StoreError (List Document) × Session :=
  withStatement (select c f limit) (fun s x =>
    match connected (Session.query s) x with
    | (.error e, x) => (.error e, x)
    | (.ok cells, x) => (cellDocuments cells, x)) x

/-- How a count is answered: one statement, whose single row holds the number. The number is signed
on its way and is read as the machine word, so the store itself never has to see the documents. -/
def count (c : Collection) (f : Filter) (x : Session) : Except StoreError UInt64 × Session :=
  withStatement (selectCount c f) (fun s x =>
    match connected (Session.queryCount s) x with
    | (.error e, x) => (.error e, x)
    | (.ok n, x) => (.ok n.toUInt64, x)) x

/-- Store a batch in one transaction, a thousand rows in a statement. All rows are made before the
first is sent, so a document without an id is refused without the server. For no documents nothing
is sent, not even over a closed pool. -/
def insert (c : Collection) (docs : List Document) (x : Session) :
    Except StoreError Unit × Session :=
  match docs with
  | [] => (.ok (), x)
  | docs =>
    match rowsOf docs with
    | .error e => (.error e, x)
    | .ok rows =>
      connected
        (Session.transaction (Session.executeAll ((chunks insertBatch rows).map (insertRows c)))) x

/-- A statement on one row, which must have changed one: that none has changed means that there is
none with the id. A reply with rows has changed none, and is taken as such. -/
def changeRow (s : Statement) (x : Session) : Except StoreError Unit × Session :=
  match connected (Session.execute s) x with
  | (.error e, x) => (.error e, x)
  | (.ok n, x) => (if n = 0 then .error .notFound else .ok (), x)

/-- How the store answers a call. All calls but the storing of a batch take at most one statement,
and only the closing of the store changes the link. -/
def answer (call : Call) (x : Session) : Except StoreError call.Answer × Session :=
  match call with
  | .ping =>
    match connected (Session.execute (.plain "SELECT 1")) x with
    | (.error e, x) => (.error e, x)
    | (.ok _, x) => (.ok (), x)
  | .insert c docs => insert c docs x
  | .find c f limit => find c f limit x
  | .count c f => count c f x
  | .update c id u => withStatement (updateRow c id u) changeRow x
  | .delete c id => changeRow (deleteRow c id) x
  | .deleteAll c f => withStatement (deleteWhere c f) (fun s => connected (Session.execute s)) x
  | .close => (.ok (), { x with link := .closed })

/-- The SQL store as a backend, so that every program over a store can be run on it. -/
def backend : Backend Session := ⟨answer⟩

/-- Create the tables of the collections that are not there. The statements say so themselves, so a
table that is there is kept. -/
def ensureSchema (x : Session) : Except StoreError Unit × Session :=
  connected (Session.executeAll (Collection.all.map fun c => .plain (createTable c))) x

/-- Connect for the first time and set the tables up. A pool that is given no time to connect in has
run out of it before it tries. That there is no connection has an error of its own, with the reason
as a text, so that a caller need not know the errors of the link. -/
def openStore (timeout : UInt64) (x : Session) : Except StoreError Unit × Session :=
  let connection (e : LinkError) : StoreError := .connection e.message
  if timeout = 0 then (.error (connection .poolTimedOut), x)
  else
    match Session.acquire x with
    | (.error e, x) => (.error (connection e), x)
    | (.ok (), x) => ensureSchema x

end Telemetry.Sql
