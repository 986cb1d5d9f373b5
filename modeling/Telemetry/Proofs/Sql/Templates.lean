import Telemetry.Proofs.Sql.Assembly

/-!
# Data stays out of the text of statements

Calls that differ in their data alone send the same text: only the values beside it differ, one for
each question mark and in the order of the data. So nothing that is stored, or compared with what is
stored, can be read as SQL. The names of fields do stand in the text. Filters come with names of
their own, but an update may set any field, and is not sent if the name of one is not plain.

* `Filter.Alike` — filters that differ in their values alone.
* `SameText` — two statements with one text, and what each of them binds.
* `sameText_select`, `sameText_insertRows`, `sameText_set` and their like — one lemma for each
  statement.
* `values_stay_apart` — all of them together.
-/

namespace Telemetry

/-- Two filters differ in their values alone; their fields have ordinary names, and they compare ids
with texts. The last two conditions make sure that both can be written. -/
structure Filter.Alike (f g : Filter) : Prop where
  shape : f.shape = g.shape
  named : f.Named ∧ g.Named
  textIds : f.TextIds ∧ g.TextIds

namespace Sql

/-! ## Statements with one text -/

/-- Two statements can be put together and have one text. It shows as many question marks as values
are bound to it, `ps` by the first statement and `ps'` by the second. -/
def SameText (s s' : Except StoreError Statement) (ps ps' : List Param) : Prop :=
  ∃ text, s = .ok ⟨text, ps⟩ ∧ s' = .ok ⟨text, ps'⟩ ∧
    text.toList.count '?' = ps.length ∧ text.toList.count '?' = ps'.length

/-- Pieces with the same texts make statements with one text. The values are left out of it, and
this is why none can be mistaken for SQL. -/
theorem sameText_ofPieces {ps qs : List Piece} (htexts : texts ps = texts qs)
    (hps : ∀ p ∈ ps, p.Unmarked) (hqs : ∀ p ∈ qs, p.Unmarked) :
    SameText (.ok (.ofPieces ps)) (.ok (.ofPieces qs)) (values ps) (values qs) := by
  have same : (Statement.ofPieces ps).text = (Statement.ofPieces qs).text :=
    congrArg String.join htexts
  refine ⟨(Statement.ofPieces ps).text, rfl, ?_, count_slots hps, ?_⟩
  · rw [same]
    rfl
  · rw [same]
    exact count_slots hqs

/-! ## Statements with conditions -/

theorem not_mark_name (c : Collection) : '?' ∉ c.name.toList := by cases c <;> decide

section

variable (c : Collection) {f g : Filter}

/-- Conditions of such filters, put together from them, with one text. -/
theorem Alike.conditions (h : f.Alike g) :
    ∃ a b, conditionOf f = .ok a ∧ conditionOf g = .ok b ∧ Assembles f a ∧ Assembles g b ∧
      texts a.pieces = texts b.pieces := by
  obtain ⟨a, ha⟩ := (needs_conditionOf f).exists_ok h.textIds.1
  obtain ⟨b, hb⟩ := (needs_conditionOf g).exists_ok h.textIds.2
  have fa := conditionOf_assembles ha
  have gb := conditionOf_assembles hb
  -- the shape that both have in common is a filter, and both texts are that of its condition
  obtain ⟨a', ha', sameA⟩ := fa.texts
  obtain ⟨b', hb', sameB⟩ := gb.texts
  rw [h.shape] at ha'
  obtain rfl := Except.ok.inj (ha'.symm.trans hb')
  exact ⟨a, b, ha, hb, fa, gb, sameA.symm.trans sameB⟩

/-- A condition between words and further pieces, with its values between those of the pieces. -/
theorem sameText_condition (h : f.Alike g) {words : String} (hwords : '?' ∉ words.toList)
    {es es' : List Piece} (htexts : texts es = texts es') (hes : ∀ p ∈ es, p.Unmarked)
    (hes' : ∀ p ∈ es', p.Unmarked) :
    SameText (conditionOf f >>= fun a => pure (.ofPieces (.words words :: a.pieces ++ es)))
      (conditionOf g >>= fun b => pure (.ofPieces (.words words :: b.pieces ++ es')))
      (f.params ++ values es) (g.params ++ values es') := by
  obtain ⟨a, b, ha, hb, fa, gb, same⟩ := Alike.conditions h
  -- the shapes agree, so the words of the conditions do, and only values can differ
  have whole : texts (.words words :: a.pieces ++ es)
      = texts (.words words :: b.pieces ++ es') := by
    rw [texts_append, texts_append, texts_words, texts_words, same, htexts]
  have values_eq {d : Filter} {k : Condition} (hk : Assembles d k) (es : List Piece) :
      values (.words words :: k.pieces ++ es) = d.params ++ values es := by
    rw [← hk.values, List.cons_append, values_words, values_append]
  have unmarked {d : Filter} {k : Condition} (hk : Assembles d k) (named : d.Named)
      {es : List Piece} (hes : ∀ p ∈ es, p.Unmarked) :
      ∀ p ∈ .words words :: k.pieces ++ es, p.Unmarked := by
    rw [List.forall_mem_append, List.forall_mem_cons]
    exact ⟨⟨hwords, hk.unmarked named⟩, hes⟩
  have sent := sameText_ofPieces whole (unmarked fa h.named.1 hes) (unmarked gb h.named.2 hes')
  rw [values_eq fa, values_eq gb] at sent
  rw [ha, hb]
  exact sent

/-- Queries with a limit, which is bound after the values of the filter. -/
theorem sameText_select (h : f.Alike g) (m n : UInt64) :
    SameText (select c f (some m)) (select c g (some n))
      (f.params ++ [.integer m.toInt64]) (g.params ++ [.integer n.toInt64]) := by
  have words : '?' ∉ ("SELECT doc FROM `" ++ c.name ++ "` WHERE ").toList :=
    not_mark_between (not_mark_name c) (by decide) (by decide)
  have ending (k : UInt64) : ∀ p ∈ [Piece.words " ORDER BY seq", .words " LIMIT ",
      .slot (.integer k.toInt64)], p.Unmarked := by
    rw [List.forall_mem_cons, List.forall_mem_cons]
    exact ⟨by decide, by decide, unmarked_slot _⟩
  exact sameText_condition h words rfl (ending m) (ending n)

/-- Queries without a limit. -/
theorem sameText_selectAll (h : f.Alike g) :
    SameText (select c f none) (select c g none) f.params g.params := by
  have words : '?' ∉ ("SELECT doc FROM `" ++ c.name ++ "` WHERE ").toList :=
    not_mark_between (not_mark_name c) (by decide) (by decide)
  have ending : ∀ p ∈ [Piece.words " ORDER BY seq"], p.Unmarked := by decide
  have sent := sameText_condition h words rfl ending ending
  rw [← List.append_nil f.params, ← List.append_nil g.params]
  exact sent

/-- The statements that count and delete end with their condition. -/
theorem sameText_ofCondition (h : f.Alike g) {words : String} (hwords : '?' ∉ words.toList) :
    SameText (conditionOf f >>= fun a => pure (.ofPieces (.words words :: a.pieces)))
      (conditionOf g >>= fun b => pure (.ofPieces (.words words :: b.pieces)))
      f.params g.params := by
  have none : ∀ p ∈ ([] : List Piece), p.Unmarked := List.forall_mem_nil _
  have sent := sameText_condition h hwords rfl none none
  simp only [List.append_nil, values_nil] at sent
  exact sent

theorem sameText_selectCount (h : f.Alike g) :
    SameText (selectCount c f) (selectCount c g) f.params g.params :=
  sameText_ofCondition h (not_mark_between (not_mark_name c) (by decide) (by decide))

theorem sameText_deleteWhere (h : f.Alike g) :
    SameText (deleteWhere c f) (deleteWhere c g) f.params g.params :=
  sameText_ofCondition h (not_mark_between (not_mark_name c) (by decide) (by decide))

end

/-! ## Statements on rows -/

section

variable (c : Collection)

/-- Statements that delete a row: only the id differs. -/
theorem sameText_deleteRow (id id' : ObjectId) :
    SameText (.ok (deleteRow c id)) (.ok (deleteRow c id')) [.text id.toHex] [.text id'.toHex] := by
  have words : '?' ∉ ("DELETE FROM `" ++ c.name ++ "` WHERE id = ").toList :=
    not_mark_between (not_mark_name c) (by decide) (by decide)
  have unmarked (id : ObjectId) : ∀ p ∈ [Piece.words ("DELETE FROM `" ++ c.name ++ "` WHERE id = "),
      .slot (.text id.toHex)], p.Unmarked := by
    rw [List.forall_mem_cons]
    exact ⟨words, unmarked_slot _⟩
  refine sameText_ofPieces ?_ (unmarked id) (unmarked id')
  rw [texts_words, texts_words, texts_slot, texts_slot]

/-- The pieces that store one row: two slots between parentheses. -/
def rowPieces (r : Row) : List Piece :=
  [.words "(", .slot (.text r.id.toHex), .words ", ", .slot (.text r.text), .words ")"]

/-- Statements that store rows: of the rows only their number shows in the text. -/
theorem sameText_insertRows {rows rows' : List Row} (h : rows.length = rows'.length) :
    SameText (.ok (insertRows c rows)) (.ok (insertRows c rows'))
      (rows.flatMap Row.params) (rows'.flatMap Row.params) := by
  have words : '?' ∉ ("INSERT INTO `" ++ c.name ++ "` (id, doc) VALUES ").toList :=
    not_mark_between (not_mark_name c) (by decide) (by decide)
  -- a row is the same text whatever is in it
  have each (r : Row) : texts (rowPieces r) = ["(", "?", ", ", "?", ")"] := rfl
  have same : (rows.map rowPieces).map texts = (rows'.map rowPieces).map texts := by
    simp only [List.map_map, Function.comp_def, each, List.map_const', h]
  have unmarked (rows : List Row) :
      ∀ p ∈ Piece.words ("INSERT INTO `" ++ c.name ++ "` (id, doc) VALUES ") ::
        joined ", " (rows.map rowPieces), p.Unmarked := by
    have row (r : Row) : ∀ p ∈ rowPieces r, p.Unmarked := by
      simp only [rowPieces, List.forall_mem_cons]
      exact ⟨by decide, trivial, by decide, trivial, by decide, List.forall_mem_nil _⟩
    rw [List.forall_mem_cons]
    refine ⟨words, unmarked_joined (by decide) ?_⟩
    rw [List.forall_mem_map]
    exact fun r _ => row r
  have whole (words : String) : texts (.words words :: joined ", " (rows.map rowPieces))
      = texts (.words words :: joined ", " (rows'.map rowPieces)) := by
    rw [texts_words, texts_words, texts_joined ", " same]
  have sent := sameText_ofPieces (whole _) (unmarked rows) (unmarked rows')
  rw [← insertRows_params c, ← insertRows_params c]
  exact sent

/-- An update between its new content and the id of the row, which is bound last. The content shows
only which fields are set. -/
theorem sameText_updateRow {id id' : ObjectId} {u u' : Update} {ps ps' : List Piece}
    (h : newContent id u = .ok ps) (h' : newContent id' u' = .ok ps')
    (htexts : texts ps = texts ps') (hps : ∀ p ∈ ps, p.Unmarked) (hps' : ∀ p ∈ ps', p.Unmarked) :
    SameText (updateRow c id u) (updateRow c id' u')
      (values ps ++ [.text id.toHex]) (values ps' ++ [.text id'.toHex]) := by
  have words : '?' ∉ ("UPDATE `" ++ c.name ++ "` SET doc = ").toList :=
    not_mark_between (not_mark_name c) (by decide) (by decide)
  let pieces (id : ObjectId) (ps : List Piece) : List Piece :=
    .words ("UPDATE `" ++ c.name ++ "` SET doc = ") :: ps ++
      [.words " WHERE id = ", .slot (.text id.toHex)]
  have written {id : ObjectId} {u : Update} {ps : List Piece} (h : newContent id u = .ok ps) :
      updateRow c id u = .ok (.ofPieces (pieces id ps)) := by
    rw [updateRow, h]
    rfl
  have bound (id : ObjectId) (ps : List Piece) :
      values (pieces id ps) = values ps ++ [.text id.toHex] := by
    simp only [pieces, List.cons_append, values_words, values_append]
    rfl
  have unmarked (id : ObjectId) {ps : List Piece} (hps : ∀ p ∈ ps, p.Unmarked) :
      ∀ p ∈ pieces id ps, p.Unmarked := by
    simp only [pieces]
    rw [List.forall_mem_append, List.forall_mem_cons, List.forall_mem_cons]
    exact ⟨⟨words, hps⟩, by decide, unmarked_slot _⟩
  have whole : texts (pieces id ps) = texts (pieces id' ps') := by
    simp only [pieces, texts_append, texts_words, texts_slot, htexts]
  rw [written h, written h', ← bound, ← bound]
  exact sameText_ofPieces whole (unmarked id hps) (unmarked id' hps')

/-- Statements that replace a document. The whole document is one value. -/
theorem sameText_replace (id id' : ObjectId) (d d' : Document) :
    SameText (updateRow c id (.replace d)) (updateRow c id' (.replace d'))
      [.text (d.withId id).text, .text id.toHex] [.text (d'.withId id').text, .text id'.toHex] := by
  have written (id : ObjectId) (d : Document) :
      newContent id (.replace d) = .ok [.slot (.text (d.withId id).text)] := rfl
  have same (a b : Param) : texts [.slot a] = texts [.slot b] := by rw [texts_slot, texts_slot]
  exact sameText_updateRow c (written id d) (written id' d') (same _ _) (unmarked_slot _)
    (unmarked_slot _)

/-! ## Setting fields

The names of the fields are the only part of a call that reaches the text. So they are held against
the characters of plain names, and a call with another name is not sent. -/

/-- A character that the name of a field may have in a statement. The quote and the question mark
are not among them. -/
def NameChar (ch : Char) : Prop :=
  ('A' ≤ ch ∧ ch ≤ 'Z') ∨ ('a' ≤ ch ∧ ch ≤ 'z') ∨ ('0' ≤ ch ∧ ch ≤ '9') ∨ ch = '_'

/-- A name is plain if all its characters are among those that a name may have. -/
theorem isPlainName_iff {key : String} :
    isPlainName key = true ↔ ∀ ch ∈ key.toList, NameChar ch := by
  rw [isPlainName, List.all_eq_true]
  refine forall₂_congr fun ch _ => ?_
  delta Char.isAlphanum Char.isAlpha Char.isUpper Char.isLower Char.isDigit
  simp only [NameChar, Bool.or_eq_true, Bool.and_eq_true, decide_eq_true_eq, beq_iff_eq,
    Char.le_def, ge_iff_le, or_assoc]

/-- The new content of a row in which fields are set. -/
def setPieces (fields : Document) : List Piece :=
  if fields.entries.isEmpty then [.words "doc"]
  else .words "JSON_SET(doc" :: fields.entries.flatMap assignment ++ [.words ")"]

section

variable {fields fields' : Document}

/-- Fields with plain names can be set. -/
theorem newContent_set (plain : ∀ key ∈ fields.keys, isPlainName key = true) (id : ObjectId) :
    newContent id (.set fields) = .ok (setPieces fields) := by
  rw [newContent, setPieces]
  split
  · rfl
  · have needs := needs_assignments fields.entries
    obtain ⟨sets, hsets⟩ := needs.exists_ok (List.forall_mem_map.1 plain)
    obtain ⟨-, rfl⟩ := of_assignments_eq_ok hsets
    rw [hsets]
    rfl

/-- The text of the new content is decided by the names of the fields. This is the one place where
something from outside becomes part of a statement. -/
theorem texts_setPieces (h : fields.keys = fields'.keys) :
    texts (setPieces fields) = texts (setPieces fields') := by
  have empty : fields.entries.isEmpty = fields'.entries.isEmpty := by
    have := congrArg List.isEmpty h
    rwa [OrderedMap.keys, OrderedMap.keys, List.isEmpty_map, List.isEmpty_map] at this
  have sets (entries : List (String × Json.Value)) : texts (entries.flatMap assignment)
      = (entries.map (·.1)).flatMap fun key =>
          [", " ++ fieldPath key ++ ", CAST(", "?", " AS JSON)"] := by
    rw [texts, List.map_flatMap, List.flatMap_map]
    rfl
  have same : texts (fields.entries.flatMap assignment)
      = texts (fields'.entries.flatMap assignment) := by
    rw [sets, sets]
    exact congrArg _ h
  rw [setPieces, setPieces, empty]
  split
  · rfl
  · simp only [texts_append, texts_words, same]

/-- Setting fields binds their values in order, as JSON. -/
theorem values_setPieces (fields : Document) :
    values (setPieces fields) = fields.values.map fun v => .text v.compact := by
  have sets (entries : List (String × Json.Value)) : values (entries.flatMap assignment)
      = (entries.map (·.2)).map fun v => .text v.compact := by
    rw [values, List.filterMap_flatMap, List.map_map, ← List.flatMap_pure_eq_map]
    rfl
  rw [setPieces]
  split
  · next none =>
    rw [OrderedMap.values, List.isEmpty_iff.1 none]
    rfl
  · rw [List.cons_append, values_words, values_append, sets]
    exact List.append_nil _

/-- The names of the fields stand in the text, and plain names have no question mark. A name with
one would shift all values behind it. -/
theorem unmarked_setPieces (plain : ∀ key ∈ fields.keys, isPlainName key = true) :
    ∀ p ∈ setPieces fields, p.Unmarked := by
  have sets : ∀ p ∈ fields.entries.flatMap assignment, p.Unmarked := by
    rw [List.forall_mem_flatMap]
    intro field hfield
    have plain : isPlainName field.1 = true := List.forall_mem_map.1 plain field hfield
    have path : '?' ∉ (", " ++ fieldPath field.1 ++ ", CAST(").toList :=
      not_mark_between (not_mark_path plain) (by decide) (by decide)
    simp only [assignment, List.forall_mem_cons]
    exact ⟨path, trivial, by decide, List.forall_mem_nil _⟩
  rw [setPieces]
  split
  · decide
  · rw [List.forall_mem_append, List.forall_mem_cons]
    exact ⟨⟨by decide, sets⟩, by decide⟩

/-- Statements that set fields: the names show in the text, the values do not. -/
theorem sameText_set (c : Collection) (id id' : ObjectId) (h : fields.keys = fields'.keys)
    (plain : ∀ key ∈ fields.keys, ∀ ch ∈ key.toList, NameChar ch) :
    SameText (updateRow c id (.set fields)) (updateRow c id' (.set fields'))
      ((fields.values.map fun v => .text v.compact) ++ [.text id.toHex])
      ((fields'.values.map fun v => .text v.compact) ++ [.text id'.toHex]) := by
  have plain : ∀ key ∈ fields.keys, isPlainName key = true :=
    fun key hkey => isPlainName_iff.2 (plain key hkey)
  have plain' : ∀ key ∈ fields'.keys, isPlainName key = true := by rwa [← h]
  rw [← values_setPieces, ← values_setPieces]
  exact sameText_updateRow c (newContent_set plain id) (newContent_set plain' id')
    (texts_setPieces h) (unmarked_setPieces plain) (unmarked_setPieces plain')

/-- An update is not sent if it sets a field whose name has another character. Nothing of the name
reaches the server. -/
theorem set_refused (c : Collection) (id : ObjectId) {key : String} (hkey : key ∈ fields.keys)
    {ch : Char} (hch : ch ∈ key.toList) (odd : ¬NameChar ch) (x : Session) :
    ∃ cause, answer (.update c id (.set fields)) x = (.error (.unexpected cause), x) := by
  -- the name is refused while the statement is put together, before a connection is taken
  have unwritable : ¬(Call.update c id (.set fields)).Writable := by
    intro plain
    obtain ⟨field, hfield, rfl⟩ := List.mem_map.1 hkey
    exact odd (isPlainName_iff.1 (plain field hfield) ch hch)
  obtain ⟨cause, hcause⟩ := (needs_updateRow c id (.set fields)).exists_unexpected unwritable
  exact ⟨cause, answer_unwritten x (congrArg some hcause)⟩

end

/-! ## All statements -/

/-- What of the data of a call is sent apart from the text of its statement. Two calls of one shape
have one text, and their values are bound in order. -/
structure ValuesApart : Prop where
  limited : ∀ c {f g : Filter}, f.Alike g → ∀ m n : UInt64,
    SameText (select c f (some m)) (select c g (some n))
      (f.params ++ [.integer m.toInt64]) (g.params ++ [.integer n.toInt64])
  unlimited : ∀ c {f g : Filter}, f.Alike g →
    SameText (select c f none) (select c g none) f.params g.params
  counted : ∀ c {f g : Filter}, f.Alike g →
    SameText (selectCount c f) (selectCount c g) f.params g.params
  deleted : ∀ c {f g : Filter}, f.Alike g →
    SameText (deleteWhere c f) (deleteWhere c g) f.params g.params
  rowDeleted : ∀ c id id',
    SameText (.ok (deleteRow c id)) (.ok (deleteRow c id')) [.text id.toHex] [.text id'.toHex]
  inserted : ∀ c {rows rows' : List Row}, rows.length = rows'.length →
    SameText (.ok (insertRows c rows)) (.ok (insertRows c rows'))
      (rows.flatMap fun r => [.text r.id.toHex, .text r.text])
      (rows'.flatMap fun r => [.text r.id.toHex, .text r.text])
  replaced : ∀ c id id' (d d' : Document),
    SameText (updateRow c id (.replace d)) (updateRow c id' (.replace d'))
      [.text (d.withId id).text, .text id.toHex] [.text (d'.withId id').text, .text id'.toHex]
  assigned : ∀ c id id' {fields fields' : Document}, fields.keys = fields'.keys →
    (∀ key ∈ fields.keys, ∀ ch ∈ key.toList, NameChar ch) →
      SameText (updateRow c id (.set fields)) (updateRow c id' (.set fields'))
        ((fields.values.map fun v => .text v.compact) ++ [.text id.toHex])
        ((fields'.values.map fun v => .text v.compact) ++ [.text id'.toHex])
  /-- the name of a field cannot be sent apart, and not every name is sent -/
  refused : ∀ c id {fields : Document},
    (∃ key ∈ fields.keys, ∃ ch ∈ key.toList, ¬NameChar ch) → ∀ x,
      ∃ cause, answer (.update c id (.set fields)) x = (.error (.unexpected cause), x)

/-- **No data reaches the text of a statement.** Calls that differ in their data alone send one
text, and each binds the data in order, a value for each question mark. Only the names of fields
stand in the text, and a name with any other character than letters, digits and underscores is
refused. -/
theorem values_stay_apart : ValuesApart where
  limited c _ _ h := sameText_select c h
  unlimited c _ _ h := sameText_selectAll c h
  counted c _ _ h := sameText_selectCount c h
  deleted c _ _ h := sameText_deleteWhere c h
  rowDeleted := sameText_deleteRow
  inserted c _ _ h := sameText_insertRows c h
  replaced := sameText_replace
  assigned c id id' _ _ h plain := sameText_set c id id' h plain
  refused c id _ := fun ⟨_, hkey, _, hch, odd⟩ => set_refused c id hkey hch odd

/-- The readings of a name and a device, where the name is an attempt to write SQL. It is bound like
any other. -/
theorem values_stay_apart_of_hostile_name :
    let f (name : String) : Filter :=
      .and [.eq "name" (.string name), .eq "device" (.string "pump")]
    (f "temperature").Alike (f "?'); DROP TABLE reading; --") ∧
      SameText (select .readings (f "temperature") (some 5))
        (select .readings (f "?'); DROP TABLE reading; --") (some 6))
        [.text "\"temperature\"", .text "\"pump\"", .integer 5]
        [.text "\"?'); DROP TABLE reading; --\"", .text "\"pump\"", .integer 6] := by
  intro f
  have fields (name : String) : ∀ p ∈ (f name).leaves, p.field? = some "name" ∨
      p.field? = some "device" := by
    intro p hp
    rcases List.mem_cons.1 hp with rfl | hp
    · exact .inl rfl
    · obtain rfl := List.mem_singleton.1 hp
      exact .inr rfl
  have named (name : String) : (f name).Named := by
    intro p hp field hfield
    rcases fields name p hp with h | h
    · obtain rfl := Option.some.inj (h.symm.trans hfield)
      decide
    · obtain rfl := Option.some.inj (h.symm.trans hfield)
      decide
  have textIds (name : String) : (f name).TextIds := by
    intro p hp hid
    rcases fields name p hp with h | h
    · exact absurd (h.symm.trans hid) (by decide)
    · exact absurd (h.symm.trans hid) (by decide)
  have alike : (f "temperature").Alike (f "?'); DROP TABLE reading; --") :=
    ⟨rfl, ⟨named _, named _⟩, textIds _, textIds _⟩
  refine ⟨alike, ?_⟩
  have sent := values_stay_apart.limited .readings alike 5 6
  exact sent

end

end Sql

end Telemetry
