import Telemetry.Program

/-!
# The in-memory store

Each collection is a table of documents in the order of their ids. A call either fails and leaves
every table as it was, or succeeds as a whole. The store counts the calls it takes up, failed ones
included; once closed it takes up none.

A batch of new documents is checked document by document, against the table and against the earlier
documents of the batch, before any of it is stored.
-/

namespace Telemetry

/-- The documents of a collection by id. That the key is the id which the document carries is an
invariant, not part of the type. -/
abbrev Table := OrderedMap ObjectId Document

/-- The state of the in-memory store: a table for each collection, and whether it has been closed,
which is for good. -/
structure Memory where
  events : Table
  readings : Table
  valueDescriptors : Table
  closed : Bool
  /-- the number of calls taken up -/
  calls : Nat

namespace Memory

/-- An open store without documents, which is the state in which a store is made. -/
def empty : Memory := ⟨∅, ∅, ∅, false, 0⟩

/-- The table of a collection. -/
def table (m : Memory) : Collection → Table
  | .events => m.events
  | .readings => m.readings
  | .valueDescriptors => m.valueDescriptors

/-- The store with another table for one of its collections. The other tables, the count of the
calls and whether the store is open are kept. -/
def setTable (m : Memory) : Collection → Table → Memory
  | .events, t => { m with events := t }
  | .readings, t => { m with readings := t }
  | .valueDescriptors, t => { m with valueDescriptors := t }

/-- What is read after a table has been set: that table under its collection, and the old ones under
the others. -/
@[simp] theorem table_setTable (m : Memory) (c c' : Collection) (t : Table) :
    (m.setTable c t).table c' = if c' = c then t else m.table c' := by
  cases c <;> cases c' <;> rfl

/-- How an error names a value that is not unique: a text as it stands, without quotes, and any
other value by its JSON. -/
def uniqueText : Json.Value → String
  | .string s => s
  | v => v.compact

/-- Whether another document of the table has the value in a field. The document under the id itself
does not count, so it may keep its value in an update. Numbers are compared as numbers, so a value
may be taken although it is written in another way. -/
def isTaken (t : Table) (id : ObjectId) (field : String) (value : Json.Value) : Bool :=
  t.entries.any fun e => e.1 != id && (e.2.get? field).any fun v => v.same value

/-- Refuse a document whose unique field has a value that another document of the table has. A
document without the field is accepted: nothing is not a value twice. -/
def checkUnique (c : Collection) (t : Table) (id : ObjectId) (d : Document) :
    Except StoreError Unit :=
  match c.uniqueField? with
  | none => .ok ()
  | some field =>
    match d.get? field with
    | none => .ok ()
    | some value =>
      if isTaken t id field value then .error (.notUnique (uniqueText value)) else .ok ()

/-- Check one new document against the table and the documents staged before it, by its id first and
then by its unique field. It is staged but not stored, for a later one may still fail. -/
def stageOne (c : Collection) (stored staged : Table) (d : Document) : Except StoreError Table := do
  let id ← d.id
  if stored.contains id || staged.contains id then throw (.unexpected (.duplicateId id))
  checkUnique c stored id d
  checkUnique c staged id d
  return staged.insert id d

/-- Check a batch of new documents, one after another, up to the first that is refused. What is
staged is passed on, so that a document is also checked against those before it. -/
def stage (c : Collection) (stored : Table) : Table → List Document → Except StoreError Table
  | staged, [] => .ok staged
  | staged, d :: ds => do
    let staged ← stageOne c stored staged d
    stage c stored staged ds

/-- Store a batch of new documents: all of them, or none if one is refused. Nothing is written
before the last document has been checked, so a refused batch need not be taken back. -/
def insert (m : Memory) (c : Collection) (docs : List Document) : Except StoreError Unit × Memory :=
  match stage c (m.table c) ∅ docs with
  | .error e => (.error e, m)
  | .ok staged => (.ok (), m.setTable c ((m.table c).insertAll staged))

/-- The documents that satisfy a filter, in the order of their ids. Every call that takes a filter
is about these. -/
def select (m : Memory) (c : Collection) (f : Filter) : List Document :=
  (m.table c).values.filter f.holds

/-- The documents that satisfy a filter, or the first of them if they are limited. A limit cuts the
list; it does not change the order. -/
def find (m : Memory) (c : Collection) (f : Filter) (limit : Option UInt64) : List Document :=
  match limit with
  | some n => (m.select c f).take n.toNat
  | none => m.select c f

/-- The number of documents that satisfy a filter, as a machine word. It is the length of what a
query without a limit lists. -/
def count (m : Memory) (c : Collection) (f : Filter) : UInt64 :=
  UInt64.ofNat (m.select c f).length

/-- Change a document; it keeps its id whatever the update says, and the field with the id is
written again in lower case. A missing document is reported before a name that is taken. -/
def update (m : Memory) (c : Collection) (id : ObjectId) (u : Update) :
    Except StoreError Unit × Memory :=
  match (m.table c).get? id with
  | none => (.error .notFound, m)
  | some d =>
    let next := (u.apply d).withId id
    match checkUnique c (m.table c) id next with
    | .error e => (.error e, m)
    | .ok () => (.ok (), m.setTable c ((m.table c).insert id next))

/-- Remove the document under an id, which must be there. The key decides this, not the text of the
id in the document. -/
def delete (m : Memory) (c : Collection) (id : ObjectId) : Except StoreError Unit × Memory :=
  if (m.table c).contains id then (.ok (), m.setTable c ((m.table c).erase id))
  else (.error .notFound, m)

/-- Remove the documents that satisfy a filter; the answer is their number. There may be none, which
is not an error. -/
def deleteAll (m : Memory) (c : Collection) (f : Filter) : Except StoreError UInt64 × Memory :=
  let kept := (m.table c).filter fun d => !f.holds d
  (.ok (UInt64.ofNat ((m.table c).size - kept.size)), m.setTable c kept)

/-- Take up a call if the store is open. It counts from then on, also if it fails. A call to a
closed store is not counted. -/
def whenOpen {α : Type} (m : Memory) (k : Memory → Except StoreError α × Memory) :
    Except StoreError α × Memory :=
  if m.closed then (.error .noActiveClient, m) else k { m with calls := m.calls + 1 }

/-- How the store answers a call. Closing is the only one that a closed store answers like an open
one. -/
def answer (call : Call) (m : Memory) : Except StoreError call.Answer × Memory :=
  match call with
  | .ping => m.whenOpen fun m => (.ok (), m)
  | .insert c docs => m.whenOpen fun m => m.insert c docs
  | .find c f limit => m.whenOpen fun m => (.ok (m.find c f limit), m)
  | .count c f => m.whenOpen fun m => (.ok (m.count c f), m)
  | .update c id u => m.whenOpen fun m => m.update c id u
  | .delete c id => m.whenOpen fun m => m.delete c id
  | .deleteAll c f => m.whenOpen fun m => m.deleteAll c f
  | .close => (.ok (), { m with closed := true })

/-- The in-memory store as a backend, so that every program over a store can be run on it. -/
def backend : Backend Memory := ⟨answer⟩

end Memory

end Telemetry
