import Telemetry.Collection
import Telemetry.Document.Stored
import Telemetry.Sql.Condition

/-!
# Tables and the statements on them

Every collection is a table of rows with a running number, an id and the text of a document. The
statements read the rows in the order of their numbers.

* `of_assignments_eq_ok` — an update that can be written has field names that can stand in a path.
-/

namespace Telemetry.Sql

/-- How many documents one statement stores. Each binds two parameters, and the server takes at most
65535 in a statement. -/
def insertBatch : Nat := 1000

/-- The lines that give a table a unique field: the hash of its value, and the key on the hash. A
key on the text itself would be limited in length and would not tell capitals apart. -/
def uniqueLines (table field : String) : String :=
  let value := "JSON_UNQUOTE(JSON_EXTRACT(doc, '$." ++ field ++ "'))"
  "    " ++ field ++ "_hash BINARY(32) GENERATED ALWAYS AS (UNHEX(SHA2(" ++ value ++
    ", 256))) STORED,\n    UNIQUE KEY uq_" ++ table ++ "_" ++ field ++ " (" ++ field ++ "_hash),\n"

/-- The statement that creates the table of a collection. The values of a unique field are compared
by their hash, byte for byte and whatever their length. -/
def createTable (c : Collection) : String :=
  "CREATE TABLE IF NOT EXISTS `" ++ c.name ++ "` (\n" ++
    "    seq BIGINT NOT NULL AUTO_INCREMENT PRIMARY KEY,\n" ++
    "    id CHAR(24) NOT NULL,\n" ++
    "    doc LONGTEXT NOT NULL,\n" ++
    ((c.uniqueField?.map (uniqueLines c.name)).getD "") ++
    "    UNIQUE KEY uq_" ++ c.name ++ "_id (id)\n)"

/-- The documents that satisfy a filter, in the order of their rows. A limit is the last value of
the statement and is bound as a signed number, so a limit of `2 ^ 63` or more is sent as a negative
one. -/
def select (c : Collection) (f : Filter) (limit : Option UInt64) : Except StoreError Statement := do
  let condition ← conditionOf f
  let ending := match limit with
    | some n => [Piece.words " LIMIT ", .slot (.integer n.toInt64)]
    | none => []
  return .ofPieces (.words ("SELECT doc FROM `" ++ c.name ++ "` WHERE ") :: condition.pieces ++
    .words " ORDER BY seq" :: ending)

/-- The number of documents that satisfy a filter, as the one row of a column `count`. The condition
is the one of the query for the documents, so both go by the same rows, and there is no order or
limit that could change the number. -/
def selectCount (c : Collection) (f : Filter) : Except StoreError Statement := do
  let condition ← conditionOf f
  return .ofPieces (.words ("SELECT COUNT(*) AS count FROM `" ++ c.name ++ "` WHERE ") ::
    condition.pieces)

/-- The deletion of the documents that satisfy a filter, under the condition of the query for them.
The server says how many rows it has deleted, so they need not be counted first. -/
def deleteWhere (c : Collection) (f : Filter) : Except StoreError Statement := do
  let condition ← conditionOf f
  return .ofPieces (.words ("DELETE FROM `" ++ c.name ++ "` WHERE ") :: condition.pieces)

/-- The deletion of the document with an id. It needs no filter, and so it can always be written. -/
def deleteRow (c : Collection) (id : ObjectId) : Statement :=
  .ofPieces [.words ("DELETE FROM `" ++ c.name ++ "` WHERE id = "), .slot (.text id.toHex)]

/-- Whether a field name can stand in a path: ASCII letters, digits and underscores. The names of an
update come from outside, and a quote among them would end the path. -/
def isPlainName (key : String) : Bool := key.toList.all fun c => c.isAlphanum || c == '_'

/-- The fields that an update sets, up to the first whose name cannot stand in a path. Such a name
is refused as a whole, not escaped. -/
def assignments : List (String × Json.Value) → Except StoreError (List Piece)
  | [] => .ok []
  | (key, v) :: rest => do
    if !isPlainName key then throw (.unexpected (.fieldName key))
    let more ← assignments rest
    return .words (", " ++ fieldPath key ++ ", CAST(") :: .slot (.text v.compact) ::
      .words " AS JSON)" :: more

/-- The pieces that set one field: its path among the words and its value in a slot. The value is
sent as JSON text, which the server has to read. -/
def assignment (field : String × Json.Value) : List Piece :=
  [.words (", " ++ fieldPath field.1 ++ ", CAST("), .slot (.text field.2.compact),
    .words " AS JSON)"]

/-- Fields that can be set are set one after another, in the order of their names, and all their
names can stand in a path. -/
theorem of_assignments_eq_ok {fields : List (String × Json.Value)} {ps : List Piece}
    (h : assignments fields = .ok ps) :
    (∀ field ∈ fields, isPlainName field.1 = true) ∧ ps = fields.flatMap assignment := by
  induction fields generalizing ps with
  | nil => exact ⟨List.forall_mem_nil _, (Except.ok.inj h).symm⟩
  | cons field rest ih =>
    rw [assignments] at h
    split at h
    · cases h
    · next plain =>
      cases hrest : assignments rest with
      | error e =>
        rw [hrest] at h
        cases h
      | ok more =>
        rw [hrest] at h
        obtain ⟨plains, rfl⟩ := ih hrest
        obtain rfl := Except.ok.inj h
        exact ⟨List.forall_mem_cons.2 ⟨by simpa using plain, plains⟩, rfl⟩

/-- The new content of a row after an update. A document that takes its place is given the id of the
row; fields that are set leave the others as they are. -/
def newContent (id : ObjectId) : Update → Except StoreError (List Piece)
  | .replace d => .ok [.slot (.text (d.withId id).text)]
  | .set fields =>
    if fields.entries.isEmpty then .ok [.words "doc"]
    else do
      let sets ← assignments fields.entries
      return .words "JSON_SET(doc" :: sets ++ [.words ")"]

/-- The update of the document with an id, which is the last value of the statement. It is refused
before anything is sent if a field name cannot stand in a path. -/
def updateRow (c : Collection) (id : ObjectId) (u : Update) : Except StoreError Statement := do
  let content ← newContent id u
  return .ofPieces (.words ("UPDATE `" ++ c.name ++ "` SET doc = ") :: content ++
    [.words " WHERE id = ", .slot (.text id.toHex)])

/-- A new row: its id and the text of its document. The number of the row is given by the server. -/
structure Row where
  id : ObjectId
  text : String

/-- The rows of new documents, up to the first without an id. Nothing is sent before all of them
have been made. -/
def rowsOf : List Document → Except StoreError (List Row)
  | [] => .ok []
  | d :: ds => do
    let id ← d.id
    let rest ← rowsOf ds
    return ⟨id, d.text⟩ :: rest

/-- The storing of some rows in one statement, two values for each. The rows are written in the
order of the batch, and so they get their numbers in that order. -/
def insertRows (c : Collection) (rows : List Row) : Statement :=
  .ofPieces (.words ("INSERT INTO `" ++ c.name ++ "` (id, doc) VALUES ") ::
    joined ", " (rows.map fun r =>
      [.words "(", .slot (.text r.id.toHex), .words ", ", .slot (.text r.text), .words ")"]))

end Telemetry.Sql
