import Telemetry.Json.Mismatch
import Telemetry.Json.Printer
import Telemetry.LinkError
import Telemetry.ObjectId

/-!
# Errors of the store

What a caller of the store can act upon has a kind of its own; everything else is unexpected and
keeps its cause.
-/

namespace Telemetry

/-- The cause of an unexpected error. Nothing is decided by it: it is kept for the text that is
shown. -/
inductive Cause where
  /-- a document without an id, or with one that is no text -/
  | noId
  /-- a document whose id is no object id -/
  | malformedId (text : String)
  /-- two documents with one id -/
  | duplicateId (id : ObjectId)
  /-- a value that cannot be stored as a document -/
  | notAnObject (v : Json.Value)
  /-- a condition on the id with a value that is no text -/
  | idFilter (v : Json.Value)
  /-- a field whose name cannot stand in a statement -/
  | fieldName (key : String)
  /-- a document of another shape than the entity wanted -/
  | shape (why : Json.Mismatch)
  /-- a stored text that is no document -/
  | text
  /-- the first item of an empty list was asked for: the operation stops without an answer -/
  | noFirst
  | link (e : LinkError)
  | stated (text : String)

/-- Why an operation of the store fails. The first six kinds are part of what an operation promises;
a caller that handles them needs no text. -/
inductive StoreError where
  | connection (text : String)
  | noActiveClient
  | invalidIdentifier (text : String)
  | notFound
  | notUnique (name : String)
  | descriptorInUse (name : String)
  | unexpected (cause : Cause)

namespace Cause

/-- The cause as it is shown behind the words that say that it was not expected. -/
def message : Cause → String
  | noId => "document has no id"
  | malformedId s => "document has malformed id " ++ Text.quoted s
  | duplicateId id => "duplicate id " ++ id.toHex
  | notAnObject v => "expected a JSON object, got " ++ v.compact
  | idFilter v => "id filter expects a string, got " ++ v.compact
  | fieldName key => "unsupported field name " ++ Text.quoted key
  | shape why => why.message
  | text => "invalid JSON"
  | noFirst => "removal index (is 0) should be < len (is 0)"
  | link e => e.message
  | stated s => s

end Cause

namespace StoreError

/-- The error as it is shown. -/
def message : StoreError → String
  | connection s => "Database connection error: " ++ s
  | noActiveClient => "No active database client"
  | invalidIdentifier s => "Invalid object id: " ++ s
  | notFound => "Record not found"
  | notUnique s => "Name is not unique: " ++ s
  | descriptorInUse s => "Value descriptor " ++ s ++ " is still referenced by readings"
  | unexpected cause => "Unexpected database error: " ++ cause.message

/-- An error of the link as an error of the store. A missing row, a closed pool and a second row
with one key have kinds of their own, since callers act upon them; all else is unexpected and keeps
the error it comes from. -/
def ofLink : LinkError → StoreError
  | .noRow => notFound
  | .poolClosed => noActiveClient
  | .server e => if e.isUniqueViolation then notUnique e.text else unexpected (.link (.server e))
  | e => unexpected (.link e)

end StoreError

/-- Read a text as an object id, without asking the store. The error holds the text, as it was
given. -/
def parseId (s : String) : Except StoreError ObjectId :=
  match ObjectId.parse? s with
  | some id => .ok id
  | none => .error (.invalidIdentifier s)

end Telemetry
