import Telemetry.Json.Reader
import Telemetry.Proofs.Entity
import Telemetry.Proofs.Memory.Writes
import Telemetry.Proofs.Sql.Reading

/-!
# What an update statement writes

Both stores change one document. The in-memory store merges the fields and sets the id again, the SQL
store leaves the change to a statement. The statement is read again, and what it makes of a row is
compared with what the in-memory store keeps.

The two agree on every update but one: a field `id` among those that are set is written into the row
as it is, while the in-memory store puts the id back under which the document is stored.

* `readUpdate` — the change that a text with its values makes to a row.
* `readUpdate_updateRow` — the statement of an update is read as `contentOf` says.
* `write_contentOf` — what it writes, if the server reads the values as they are meant.
* `updates_agree_iff` — when both stores keep the same document.
-/

namespace Telemetry

namespace Sql

open Source

/-! ## Reading updates -/

/-- What a row gets in the place of its document: the document itself, the old one as it is, or the
old one with some fields set. -/
inductive Content where
  /-- another document, from its text -/
  | text (s : String)
  /-- the document that is there -/
  | same
  /-- the document that is there with some fields set in turn, each to the value of a text -/
  | assigned (fields : List (String × String))

/-- What an update does: the row with an id of a table gets another content. The id column is not
changed. -/
structure RowChange where
  table : String
  content : Content
  id : String

/-- Read one assignment: the name of a field and the JSON text that is bound for it. -/
def readAssignment : Reader (String × String) := fun s => do
  let s ← s.word ", "
  let (field, s) ← s.path
  let s ← s.word ", CAST("
  let (text, s) ← s.textParam
  let s ← s.word " AS JSON)"
  return ((field, text), s)

/-- Assignments as long as there are any, fewer than the given number. -/
def readAssignments : Nat → Reader (List (String × String))
  | 0, _ => none
  | n + 1, s =>
    match readAssignment s with
    | none => some ([], s)
    | some (a, s) => do
      let (rest, s) ← readAssignments n s
      return (a :: rest, s)

/-- Read the new content of a row. Which of the three forms it has shows in the first word. -/
def readContent (n : Nat) : Reader Content := fun s =>
  match s.word "JSON_SET(doc" with
  | some s => do
    let (fields, s) ← readAssignments n s
    let s ← s.word ")"
    return (.assigned fields, s)
  | none =>
    match s.word "doc" with
    | some s => some (.same, s)
    | none => do
      let (text, s) ← s.textParam
      return (.text text, s)

/-- The change that an update makes, from its text and its values. All of both must be used, as in
`readCondition`. -/
def readUpdate (update : Statement) : Option RowChange := do
  let s ← (ofStatement update).word "UPDATE `"
  let (table, s) := s.name
  let s ← s.word "` SET doc = "
  let (content, s) ← readContent (update.text.toList.length + 1) s
  let s ← s.word " WHERE id = "
  let (id, s) ← s.textParam
  if s.Finished then some ⟨table, content, id⟩ else none

/-- The document that a row gets in the place of another, if all texts can be read. -/
def Content.write (json : String → Option Json.Value) (d : Document) : Content → Option Document
  | .text s => (json s).bind Document.ofValue?
  | .same => some d
  | .assigned fields => fields.foldlM (fun d field => (json field.2).map (d.insert field.1 ·)) d

/-! ## The statement of an update -/

/-- The new content in the statement of an update. -/
def contentOf (id : ObjectId) : Update → Content
  | .replace d => .text (d.withId id).text
  | .set fields =>
    if fields.entries.isEmpty then .same
    else .assigned (fields.entries.map fun field => (field.1, field.2.compact))

/-- An assignment is read back from its pieces, if the name of its field is plain. Only then does
the path end where the name does. -/
theorem readAssignment_before {field : String × Json.Value} (hfield : isPlainName field.1 = true)
    (s : Source) :
    readAssignment (before (assignment field) s) = some ((field.1, field.2.compact), s) := by
  have pieces : before (assignment field) s
      = put (.words ", ") (put (.words (fieldPath field.1)) (put (.words ", CAST(")
          (put (.slot (.text field.2.compact)) (put (.words " AS JSON)") s)))) := by
    rw [assignment, before_cons, before_cons, before_cons, before_nil, put_append, put_append]
  rw [pieces, readAssignment, word_put]
  simp only [Option.bind_eq_bind, Option.bind_some, path_put _ hfield, word_put, textParam_put]
  rfl

/-- The assignments end where no comma follows. -/
theorem readAssignments_before {fields : List (String × Json.Value)}
    (hfields : ∀ field ∈ fields, isPlainName field.1 = true) {s : Source}
    (hs : s.word ", " = none) :
    ∀ n, fields.length < n → readAssignments n (before (fields.flatMap assignment) s)
      = some (fields.map fun field => (field.1, field.2.compact), s) := by
  -- on the fields; the number that bounds the reader is used up by one with each
  induction fields with
  | nil =>
    intro n hn
    obtain ⟨n, rfl⟩ := Nat.exists_eq_succ_of_ne_zero (Nat.ne_of_gt hn)
    rw [List.flatMap_nil, before_nil, readAssignments, readAssignment, hs]
    rfl
  | cons field fields ih =>
    obtain ⟨hfield, hfields⟩ := List.forall_mem_cons.1 hfields
    intro n hn
    obtain ⟨n, rfl⟩ := Nat.exists_eq_succ_of_ne_zero (Nat.ne_of_gt (Nat.zero_lt_of_lt hn))
    rw [List.flatMap_cons, before_append, readAssignments, readAssignment_before hfield]
    simp only [ih hfields n (Nat.lt_of_succ_lt_succ hn), Option.bind_eq_bind, Option.bind_some]
    rfl

/-- There are fewer assignments than characters. -/
theorem length_le_before (fields : List (String × Json.Value)) (s : Source) :
    fields.length ≤ (before (fields.flatMap assignment) s).text.length := by
  induction fields with
  | nil => exact Nat.zero_le _
  | cons field fields ih =>
    rw [List.flatMap_cons, before_append, List.length_cons, assignment, before_cons, before_cons,
      before_cons, before_nil, length_put_words, length_put_slot, length_put_words]
    omega

/-- The new content of an update is read back from its statement. -/
theorem readContent_newContent {id : ObjectId} {u : Update} {ps : List Piece}
    (h : newContent id u = .ok ps) (s : Source) {n : Nat}
    (hn : (before ps s).text.length < n) :
    readContent n (before ps s) = some (contentOf id u, s) := by
  cases u with
  | replace d =>
    obtain rfl := Except.ok.inj h
    rfl
  | set fields =>
    rw [newContent] at h
    rw [contentOf]
    split at h
    · next none =>
      obtain rfl := Except.ok.inj h
      rw [if_pos none, before_cons, before_nil, readContent, word_put]
      rfl
    · next some =>
      obtain ⟨sets, hsets, h⟩ := ok_of_bind h
      obtain rfl := Except.ok.inj h
      obtain ⟨plain, rfl⟩ := of_assignments_eq_ok hsets
      let closed := put (.words ")") s
      have pieces : before (.words "JSON_SET(doc" :: fields.entries.flatMap assignment
          ++ [.words ")"]) s
            = put (.words "JSON_SET(doc") (before (fields.entries.flatMap assignment) closed) :=
        before_append ..
      rw [pieces] at hn ⊢
      -- each assignment takes some text, so what is more than the text is enough for all of them
      have few : fields.entries.length < n := by
        rw [length_put_words] at hn
        have := length_le_before fields.entries closed
        omega
      have read := readAssignments_before plain (s := closed) rfl n few
      rw [if_neg some, readContent, word_put]
      simp only [read, Option.bind_eq_bind, Option.bind_some, closed, word_put]
      rfl

theorem isPlainName_name (c : Collection) : isPlainName c.name = true := by
  cases c <;> decide

/-- The statement of an update is read as the change that it is meant to make. The reader knows
nothing of how the statement has been put together. -/
theorem readUpdate_updateRow {c : Collection} {id : ObjectId} {u : Update} {st : Statement}
    (h : updateRow c id u = .ok st) :
    readUpdate st = some ⟨c.name, contentOf id u, id.toHex⟩ := by
  obtain ⟨content, hcontent, h⟩ := ok_of_bind h
  obtain rfl := Except.ok.inj h
  let ending := put (.words " WHERE id = ") (put (.slot (.text id.toHex)) ⟨[], []⟩)
  let beginning := put (.words "` SET doc = ") (before content ending)
  have whole : ofStatement (.ofPieces (.words ("UPDATE `" ++ c.name ++ "` SET doc = ") :: content ++
      [.words " WHERE id = ", .slot (.text id.toHex)]))
        = put (.words "UPDATE `") (put (.words c.name) beginning) := by
    rw [ofStatement_ofPieces, before_append, before_cons, put_append, put_append]
    rfl
  have text := congrArg (fun s => s.text.length) whole
  have named : (put (.words c.name) beginning).name = (c.name, beginning) :=
    name_put _ (isPlainName_name c) fun ch hch => by
      obtain rfl := Option.some.inj hch
      decide
  -- what is left of the text bounds the number of assignments, so the whole text does
  have short : (before content ending).text.length
      < (Statement.ofPieces (.words ("UPDATE `" ++ c.name ++ "` SET doc = ") :: content ++
          [.words " WHERE id = ", .slot (.text id.toHex)])).text.toList.length + 1 := by
    simp only [ofStatement, length_put_words, beginning] at text
    omega
  have read := readContent_newContent hcontent ending short
  rw [readUpdate, whole, word_put]
  simp only [Option.bind_eq_bind, Option.bind_some, named, beginning, word_put, read, ending,
    textParam_put]
  rfl

/-! ## What is written -/

section

variable {json : String → Option Json.Value} {id : ObjectId} {d : Document}

/-- The values that the server has to read as JSON for an update. -/
def boundValues (id : ObjectId) : Update → List Json.Value
  | .replace d => [(d.withId id).toValue]
  | .set fields => fields.values

/-- The document that the statement of an update writes. -/
def rowAfter (id : ObjectId) (d : Document) : Update → Document
  | .replace d' => d'.withId id
  | .set fields => d.insertAll fields

/-- Fields whose texts can be read are set in turn. -/
theorem foldlM_assigned {fields : List (String × Json.Value)}
    (hjson : ∀ field ∈ fields, json field.2.compact = some field.2) (d : Document) :
    (fields.map fun field => (field.1, field.2.compact)).foldlM
        (fun d field => (json field.2).map (d.insert field.1 ·)) d
      = some (fields.foldl (fun d field => d.insert field.1 field.2) d) := by
  induction fields generalizing d with
  | nil => rfl
  | cons field fields ih =>
    obtain ⟨hfield, hfields⟩ := List.forall_mem_cons.1 hjson
    rw [List.map_cons, List.foldlM_cons, hfield, List.foldl_cons]
    exact ih hfields _

/-- What is read from an update, written to a document, gives the document that the update is to
leave. The texts must be read as they are meant. -/
theorem write_contentOf {u : Update} (hjson : ∀ v ∈ boundValues id u, json v.compact = some v)
    (d : Document) : (contentOf id u).write json d = some (rowAfter id d u) := by
  cases u with
  | replace d' =>
    have read : json (d'.withId id).text = some (d'.withId id).toValue :=
      hjson _ (List.mem_singleton_self _)
    rw [contentOf, Content.write, read]
    exact congrArg some (OrderedMap.ofList_entries _)
  | set fields =>
    rw [contentOf]
    split
    · next none =>
      have unchanged : d.insertAll fields = d := by
        rw [OrderedMap.insertAll, List.isEmpty_iff.1 none]
        rfl
      rw [rowAfter, unchanged]
      rfl
    · exact foldlM_assigned (fun field hfield => hjson _ (List.mem_map_of_mem hfield)) d

/-! ## What is kept -/

/-- What the in-memory store keeps after an update that succeeds. It is compared with the row that
the server keeps after the statement. -/
theorem get?_update {m : Memory} {c : Collection} {u : Update} (hd : (m.table c).get? id = some d)
    (hok : (m.update c id u).1 = .ok ()) :
    ((m.update c id u).2.table c).get? id = some ((u.apply d).withId id) := by
  unfold Memory.update at hok ⊢
  rw [hd] at hok ⊢
  dsimp only at hok ⊢
  cases hunique : Memory.checkUnique c (m.table c) id ((u.apply d).withId id) with
  | error e =>
    rw [hunique] at hok
    cases hok
  | ok =>
    dsimp only
    rw [Memory.table_setTable, if_pos rfl, OrderedMap.get?_insert_self]

/-- Setting the id changes nothing if and only if the field has the lower-case text of the id
already. -/
theorem withId_eq_self_iff : d.withId id = d ↔ d.get? "id" = some (.string id.toHex) := by
  constructor
  · intro h
    rw [← h]
    exact Document.get?_withId d id
  · intro h
    refine OrderedMap.ext_get? fun field => ?_
    by_cases hfield : field = "id"
    · rw [hfield, h]
      exact Document.get?_withId d id
    · exact OrderedMap.get?_insert_of_ne _ _ hfield

/-- A field `id` among those that an update sets is the id that is there. An update without such a
field keeps the id as well. -/
def KeepsId (id : ObjectId) (u : Update) : Prop :=
  ∀ fields v, u = .set fields → fields.get? "id" = some v → v = .string id.toHex

/-- The row keeps its id if and only if the update does not set another. -/
theorem id_rowAfter_iff (hid : d.get? "id" = some (.string id.toHex)) (u : Update) :
    (rowAfter id d u).get? "id" = some (.string id.toHex) ↔ KeepsId id u := by
  cases u with
  | replace d' =>
    exact ⟨fun _ _ _ => nofun, fun _ => Document.get?_withId d' id⟩
  | set fields =>
    rw [rowAfter, OrderedMap.get?_insertAll, hid]
    constructor
    · intro h fields' v hu hv
      cases hu
      rw [hv] at h
      exact Option.some.inj h
    · intro h
      cases hv : fields.get? "id" with
      | none => rfl
      | some v => rw [h fields v rfl hv]; rfl

/-- Where the id is set again, nothing else is changed. -/
theorem withId_rowAfter (u : Update) : (rowAfter id d u).withId id = (u.apply d).withId id := by
  cases u with
  | replace d' => exact withId_eq_self_iff.2 (Document.get?_withId d' id)
  | set fields => rfl

/-- The statement of an update writes the document that the in-memory store keeps, unless the update
sets the id to another value. Then the row does not keep its id, and the in-memory store does: there
the id is set again after the fields have been. -/
theorem updates_agree_iff {m : Memory} {c : Collection} {u : Update} {st : Statement}
    (hd : (m.table c).get? id = some d) (hid : d.get? "id" = some (.string id.toHex))
    (hst : updateRow c id u = .ok st) (hok : (m.update c id u).1 = .ok ())
    (hjson : ∀ v ∈ boundValues id u, json v.compact = some v) :
    ∃ change written, readUpdate st = some change ∧ change.table = c.name ∧
      change.id = id.toHex ∧ change.content.write json d = some written ∧
      (((m.update c id u).2.table c).get? id = some written ↔ KeepsId id u) ∧
      (written.get? "id" = some (.string id.toHex) ↔ KeepsId id u) := by
  refine ⟨_, rowAfter id d u, readUpdate_updateRow hst, rfl, rfl, write_contentOf hjson d, ?_,
    id_rowAfter_iff hid u⟩
  rw [get?_update hd hok, ← withId_rowAfter, Option.some_inj, withId_eq_self_iff,
    id_rowAfter_iff hid]

end

/-- An update that sets the device of an event. -/
theorem updates_agree_on_device :
    let json (s : String) : Option Json.Value := (Json.Value.read s).toOption
    let d : Document := .ofFields [("id", .string ObjectId.nil.toHex), ("device", .string "pump")]
    let m := Memory.empty.setTable .events (OrderedMap.empty.insert .nil d)
    let u := Update.set (.ofFields [("device", .string "boiler")])
    (m.table .events).get? .nil = some d ∧ d.get? "id" = some (.string ObjectId.nil.toHex) ∧
      (m.update .events .nil u).1 = .ok () ∧
      (∀ v ∈ boundValues .nil u, json v.compact = some v) ∧
      ∃ st change written, updateRow .events .nil u = .ok st ∧ readUpdate st = some change ∧
        change.content.write json d = some written ∧
        ((m.update .events .nil u).2.table .events).get? .nil = some written := by
  intro json d m u
  have stored : (m.table .events).get? .nil = some d := by
    rw [Memory.table_setTable, if_pos rfl, OrderedMap.get?_insert_self]
  have named : d.get? "id" = some (.string ObjectId.nil.toHex) := Document.get?_ofFields _ "id"
  have updated : (m.update .events .nil u).1 = .ok () := by
    rw [Memory.update, stored]
    rfl
  have read : json (Json.Value.string "boiler").compact = some (.string "boiler") := by
    simp only [json]
    cbv
  have reads : ∀ v ∈ boundValues .nil u, json v.compact = some v :=
    List.forall_mem_singleton.2 read
  have keeps : KeepsId .nil u := by
    intro fields v hu hv
    obtain rfl := Update.set.inj hu
    cases hv
  obtain ⟨st, hst⟩ : ∃ st, updateRow .events .nil u = .ok st := ⟨_, rfl⟩
  obtain ⟨change, written, hread, -, -, hwrite, agree, -⟩ :=
    updates_agree_iff stored named hst updated reads
  exact ⟨stored, named, updated, reads, st, change, written, hst, hread, hwrite, agree.2 keeps⟩

/-- A field `id` is written into the row, while the in-memory store keeps the id. The row then
stands under one id, and its document carries another. -/
theorem updates_differ_on_id :
    let json (s : String) : Option Json.Value := (Json.Value.read s).toOption
    let d : Document := .ofFields [("id", .string ObjectId.nil.toHex)]
    let m := Memory.empty.setTable .events (OrderedMap.empty.insert .nil d)
    let u := Update.set (.ofFields [("id", .string "000000000000000000000001")])
    ∃ st change written, (m.table .events).get? .nil = some d ∧
      d.get? "id" = some (.string ObjectId.nil.toHex) ∧ updateRow .events .nil u = .ok st ∧
      (m.update .events .nil u).1 = .ok () ∧ readUpdate st = some change ∧
      change.content.write json d = some written ∧
      ((m.update .events .nil u).2.table .events).get? .nil ≠ some written ∧
      written.get? "id" = some (.string "000000000000000000000001") := by
  intro json d m u
  have stored : (m.table .events).get? .nil = some d := by
    rw [Memory.table_setTable, if_pos rfl, OrderedMap.get?_insert_self]
  have named : d.get? "id" = some (.string ObjectId.nil.toHex) := Document.get?_ofFields _ "id"
  have updated : (m.update .events .nil u).1 = .ok () := by
    rw [Memory.update, stored]
    rfl
  have read : json (Json.Value.string "000000000000000000000001").compact
      = some (.string "000000000000000000000001") := by
    simp only [json]
    cbv
  have reads : ∀ v ∈ boundValues .nil u, json v.compact = some v :=
    List.forall_mem_singleton.2 read
  have other : (rowAfter .nil d u).get? "id" = some (.string "000000000000000000000001") := by
    rw [rowAfter, OrderedMap.get?_insertAll]
    rfl
  obtain ⟨st, hst⟩ : ∃ st, updateRow .events .nil u = .ok st := ⟨_, rfl⟩
  refine ⟨st, _, rowAfter .nil d u, stored, named, hst, updated, readUpdate_updateRow hst,
    write_contentOf reads d, fun same => ?_, other⟩
  rw [get?_update stored updated, Option.some_inj] at same
  have kept := Document.get?_withId (u.apply d) .nil
  rw [same, other] at kept
  exact absurd (Json.Value.string.inj (Option.some.inj kept)) (by decide)

end Sql

end Telemetry
