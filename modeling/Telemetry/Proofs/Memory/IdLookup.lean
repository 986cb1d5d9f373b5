import Telemetry.Proofs.Memory.Batches
import Telemetry.Proofs.Memory.NameUniqueness

/-!
# Looking a document up by its id

There are two ways to a document: its key in the table, which is parsed from the text of its id, and
the condition that this text is the lower-case one. A deletion and an update go by the key; whoever
asks for a document gives the condition. Both lead to the same document if the stored text is in
lower case. An insertion does not see to this: it stores the text as the caller writes it.

* `select_byId` — the condition selects the document of the key, or nothing.
* `inserted_or_lowerCase` — a text in upper case has been inserted as it is: an update always leaves
  the lower-case one.
* `find_byId_iff` — where the two ways agree, in every store that calls can lead to.
-/

namespace Telemetry.Memory

open Client

/-- The id field of a document is the lower-case text of the id. Under its key a document may also
carry a text with upper-case letters, as both are parsed to the same id. -/
def LowerCase (k : ObjectId) (d : Document) : Prop := d.get? "id" = some (.string k.toHex)

/-! ## The condition -/

/-- A document that carries an id satisfies the condition on some id if it has its lower-case text:
the condition compares texts, and nothing parses the text that is stored. -/
theorem holds_byId_iff {d : Document} {j : ObjectId} (hid : d.id = .ok j) (k : ObjectId) :
    (byId k).holds d = true ↔ LowerCase k d := by
  obtain ⟨s, hs, -⟩ := Document.id_eq_ok.1 hid
  rw [byId, Filter.holds_eq_string hs, LowerCase, hs]
  simp

theorem LowerCase.id {k : ObjectId} {d : Document} (h : LowerCase k d) : d.id = .ok k :=
  Document.id_eq_ok.2 ⟨k.toHex, h, ObjectId.parse?_toHex k⟩

section

variable {m : Memory} {c : Collection} (h : Lawful c (m.table c)) (k : ObjectId)

include h

/-- The condition selects the document of the key if that has the lower-case text. It cannot select
a second one, since what has the text of an id is kept under the id. -/
theorem select_byId :
    m.select c (byId k) = ((m.table c).get? k).toList.filter (byId k).holds := by
  let key (d : Document) : ObjectId := d.id.toOption.getD .nil
  have keyed (j : ObjectId) (d : Document) (hd : (m.table c).get? j = some d) : key d = j := by
    simp only [key, h.carries j d hd]
    rfl
  rw [select, ← OrderedMap.values_filter_key keyed k, List.filter_filter]
  refine List.filter_congr fun d hd => ?_
  obtain ⟨j, hj⟩ := OrderedMap.mem_values.1 hd
  have carries := h.carries j d hj
  -- what satisfies the condition lies under the id
  by_cases hlow : (byId k).holds d = true
  · have hkey : key d = k := by
      simp only [key, ((holds_byId_iff carries k).1 hlow).id]
      rfl
    simp [hlow, hkey]
  · simp [hlow]

end

/-! ## Where the texts come from

Nothing but an insertion writes an id field as the caller has it. The lemmas go through the calls
and say of each what documents it can leave under an id. -/

section

variable {m : Memory} {c c' : Collection} {k : ObjectId} {d : Document}

theorem get?_setTable {t : Table} (hd : ((m.setTable c' t).table c).get? k = some d) :
    (m.table c).get? k = some d ∨ c = c' ∧ t.get? k = some d := by
  rw [table_setTable] at hd
  split at hd
  · next hc => exact .inr ⟨hc, hd⟩
  · exact .inl hd

/-- An insertion leaves what was there, and its documents as they are given. -/
theorem get?_insert {docs : List Document} (hd : ((m.insert c' docs).2.table c).get? k = some d) :
    (m.table c).get? k = some d ∨ c = c' ∧ d ∈ docs := by
  rw [insert_eq_adoptAll] at hd
  split at hd
  · exact .inl hd
  · next t hall =>
    rcases get?_setTable hd with hd | ⟨rfl, ht⟩
    · exact .inl hd
    · exact ((get?_adoptAll hall k d).1 ht).symm.imp_right fun ⟨hmem, _⟩ => ⟨rfl, hmem⟩

/-- An update puts the lower-case text, whatever the text was before and in the update. -/
theorem get?_update {id : ObjectId} {u : Update}
    (hd : ((m.update c' id u).2.table c).get? k = some d) :
    (m.table c).get? k = some d ∨ LowerCase k d := by
  unfold Memory.update at hd
  split at hd
  · exact .inl hd
  · dsimp only at hd
    split at hd
    · exact .inl hd
    · rcases get?_setTable hd with hd | ⟨rfl, hd⟩
      · exact .inl hd
      · rcases OrderedMap.get?_insert_eq_some hd with ⟨rfl, rfl⟩ | ⟨-, hd⟩
        · exact .inr (Document.get?_withId ..)
        · exact .inl hd

/-- A deletion adds nothing. -/
theorem get?_delete {id : ObjectId} (hd : ((m.delete c' id).2.table c).get? k = some d) :
    (m.table c).get? k = some d := by
  unfold Memory.delete at hd
  split at hd
  · rcases get?_setTable hd with hd | ⟨rfl, hd⟩
    · exact hd
    · rw [OrderedMap.get?_erase] at hd
      split at hd
      · cases hd
      · exact hd
  · exact hd

theorem get?_deleteAll {f : Filter} (hd : ((m.deleteAll c' f).2.table c).get? k = some d) :
    (m.table c).get? k = some d := by
  rcases get?_setTable hd with hd | ⟨rfl, hd⟩
  · exact hd
  · rw [OrderedMap.get?_filter, Option.filter_eq_some_iff] at hd
    exact hd.1

/-- What a call leaves under an id was there, has the lower-case text, or has just been inserted.
The step of `inserted_or_lowerCase`. -/
theorem inserted_or_lowerCase_answer (call : Call)
    (hd : ((answer call m).2.table c).get? k = some d) :
    (m.table c).get? k = some d ∨ LowerCase k d ∨ ∃ docs, call = .insert c docs ∧ d ∈ docs := by
  have opened {α : Type} {f : Memory → Except StoreError α × Memory} {P : Prop}
      (hf : ∀ m : Memory, ((f m).2.table c).get? k = some d → (m.table c).get? k = some d ∨ P)
      (hd : ((m.whenOpen f).2.table c).get? k = some d) : (m.table c).get? k = some d ∨ P := by
    unfold whenOpen at hd
    split at hd
    · exact .inl hd
    · rw [← table_calls m (m.calls + 1) c]
      exact hf _ hd
  -- only an update changes a document that is there, and it writes the id in lower case
  cases call with
  | ping | find _ _ _ | count _ _ => exact opened (fun _ => .inl) hd
  | close => exact .inl (table_closed m true c ▸ hd)
  | insert c' docs =>
    refine (opened (fun _ => get?_insert) hd).imp_right fun ⟨hc, hmem⟩ => .inr ⟨docs, ?_, hmem⟩
    rw [hc]
  | update c' id u => exact (opened (fun _ => get?_update) hd).imp_right .inl
  | delete c' id => exact opened (fun _ h => .inl (get?_delete h)) hd
  | deleteAll c' f => exact opened (fun _ h => .inl (get?_deleteAll h)) hd

end

/-- What a run leaves under an id was there at its start, has the lower-case text, or has been
inserted by one of its calls. So a text in upper case can be traced to the caller who wrote it. -/
theorem inserted_or_lowerCase (calls : List Call) (m : Memory) {c : Collection} {k : ObjectId}
    {d : Document} (hd : ((m.after calls).table c).get? k = some d) :
    (m.table c).get? k = some d ∨ LowerCase k d ∨ ∃ docs, .insert c docs ∈ calls ∧ d ∈ docs := by
  induction calls generalizing m with
  | nil => exact .inl hd
  | cons call calls ih =>
    -- the rest of the run starts from what the first call leaves
    rcases ih (answer call m).2 hd with hd | hlow | ⟨docs, hmem, hdocs⟩
    · rcases inserted_or_lowerCase_answer call hd with hd | hlow | ⟨docs, rfl, hdocs⟩
      · exact .inl hd
      · exact .inr (.inl hlow)
      · exact .inr (.inr ⟨docs, List.mem_cons_self .., hdocs⟩)
    · exact .inr (.inl hlow)
    · exact .inr (.inr ⟨docs, List.mem_cons_of_mem _ hmem, hdocs⟩)

/-! ## Looking up, changing and deleting -/

/-- What the calls that name an id do with the document under it: the lookup by a condition, and the
deletion and the update, which take the key. -/
structure ById (m : Memory) (c : Collection) (k : ObjectId) : Prop where
  /-- the condition finds what the key leads to, if that is written in lower case, -/
  found : (answer (.find c (byId k) none) m).1 = .ok ((m.table c).get? k).toList ↔
    ∀ d, (m.table c).get? k = some d → LowerCase k d
  /-- and nothing else -/
  overlooked : ∀ d, (m.table c).get? k = some d → ¬LowerCase k d →
    (answer (.find c (byId k) none) m).1 = .ok []
  deleted : (answer (.delete c k) m).1 = .error .notFound ↔ (m.table c).get? k = none
  updated : ∀ u, (answer (.update c k u) m).1 = .error .notFound ↔ (m.table c).get? k = none

/-- The check of the unique field has an error of its own, so an update that it refuses is not one
of a missing document. -/
theorem checkUnique_ne_notFound {t : Table} {id : ObjectId} {d : Document} :
    checkUnique c t id d ≠ .error .notFound := by
  unfold checkUnique
  split
  · nofun
  · split
    · nofun
    · split <;> nofun

section

variable {m : Memory} (hopen : m.closed = false) (c : Collection) (k : ObjectId)

include hopen

/-- A deletion misses a document exactly if the key leads to none. The text that is stored does not
matter. -/
theorem delete_notFound_iff :
    (answer (.delete c k) m).1 = .error .notFound ↔ (m.table c).get? k = none := by
  change (m.whenOpen fun m => m.delete c k).1 = _ ↔ _
  rw [whenOpen_of_open hopen, delete, table_calls, ← OrderedMap.contains_eq_false_iff]
  cases (m.table c).contains k <;> simp

/-- An update misses a document in the same case. It may also be refused for a value that is not
unique, but that is another error. -/
theorem update_notFound_iff (u : Update) :
    (answer (.update c k u) m).1 = .error .notFound ↔ (m.table c).get? k = none := by
  change (m.whenOpen fun m => m.update c k u).1 = _ ↔ _
  rw [whenOpen_of_open hopen, update, table_calls]
  cases (m.table c).get? k with
  | none => simp
  | some d =>
    dsimp only
    cases hu : checkUnique c (m.table c) k ((u.apply d).withId k) with
    | ok _ => simp
    | error e =>
      have hne : e ≠ .notFound := by
        rintro rfl
        exact checkUnique_ne_notFound hu
      simp [hne]

/-- The answer to a lookup by id is at most one document, the one of the key. -/
theorem find_byId (h : Lawful c (m.table c)) :
    (answer (.find c (byId k) none) m).1
      = .ok (((m.table c).get? k).toList.filter (byId k).holds) := by
  rw [← select_byId h]
  change (m.whenOpen fun m => (.ok (m.find c (byId k) none), m)).1 = _
  rw [whenOpen_of_open hopen, find, select, select, table_calls]

/-- In an open store that is lawful the calls that name an id do what `ById` says. -/
theorem byId_of_lawful (h : Lawful c (m.table c)) : ById m c k := by
  have find := find_byId hopen c k h
  refine ⟨?found, ?overlooked, delete_notFound_iff hopen c k, update_notFound_iff hopen c k⟩
  case found =>
    rw [find]
    cases hk : (m.table c).get? k with
    | none => simp
    | some d => simp [← holds_byId_iff (h.carries k d hk) k]
  case overlooked =>
    intro d hd hlow
    rw [← holds_byId_iff (h.carries k d hd) k] at hlow
    rw [find, hd]
    simp [hlow]

end

/-- In every open store that calls can lead to, the condition on an id finds the document under it
exactly if that is written in lower case. Otherwise it overlooks a document that a deletion and an
update do find, and which has been inserted as it is. -/
theorem find_byId_iff (calls : List Call) (hopen : (empty.after calls).closed = false)
    (c : Collection) (k : ObjectId) :
    ById (empty.after calls) c k ∧
      ∀ d, ((empty.after calls).table c).get? k = some d → ¬LowerCase k d →
        ∃ docs, .insert c docs ∈ calls ∧ d ∈ docs := by
  refine ⟨byId_of_lawful hopen c k (lawful_after calls c), fun d hd hlow => ?_⟩
  rcases inserted_or_lowerCase calls empty hd with hd | hlow' | inserted
  · cases c <;> cases hd
  · exact absurd hlow' hlow
  · exact inserted

/-- A document with nothing but an id, which is written in upper case. It is inserted like any
other, since the text parses. -/
def upperCased : Document := .ofFields [("id", .string "5A1B2C3D4E5F60718293A4B5")]

/-- The id of that document. -/
def upperCasedId : ObjectId := ⟨0x5a1b2c3d4e5f60718293a4b5, by decide⟩

theorem upperCased_id : upperCased.id = .ok upperCasedId :=
  Document.id_eq_ok.2 ⟨"5A1B2C3D4E5F60718293A4B5", rfl, by decide +kernel⟩

theorem not_lowerCase_upperCased : ¬LowerCase upperCasedId upperCased := by
  intro hlow
  have same : "5A1B2C3D4E5F60718293A4B5" = upperCasedId.toHex :=
    Json.Value.string.inj (Option.some.inj hlow)
  revert same
  decide +kernel

/-- The document is stored as it is. -/
theorem after_insert_upperCased :
    (empty.after [.insert .readings [upperCased]])
      = ⟨∅, (∅ : Table).insert upperCasedId upperCased, ∅, false, 1⟩ := by
  have adopted : adopt .readings ∅ upperCased
      = .ok ((∅ : Table).insert upperCasedId upperCased) :=
    adopt_eq_ok.2 ⟨upperCasedId, upperCased_id, rfl, rfl, rfl⟩
  have tables : empty.table .readings = ∅ := rfl
  change (answer (.insert .readings [upperCased]) empty).2 = _
  rw [answer_insert rfl, adoptAll_singleton, tables, adopted]
  rfl

theorem get?_upperCased :
    ((empty.after [.insert .readings [upperCased]]).table .readings).get? upperCasedId
      = some upperCased := by
  rw [after_insert_upperCased]
  exact OrderedMap.get?_insert_self ..

/-- After its insertion the document is found by its key only. -/
theorem find_byId_iff_of_upperCased :
    (empty.after [.insert .readings [upperCased]]).closed = false ∧
      (answer (.delete .readings upperCasedId) (empty.after [.insert .readings [upperCased]])).1
        ≠ .error .notFound ∧
      (answer (.find .readings (byId upperCasedId) none)
        (empty.after [.insert .readings [upperCased]])).1 = .ok [] := by
  have hopen : (empty.after [.insert .readings [upperCased]]).closed = false := by
    rw [after_insert_upperCased]
  obtain ⟨lookUp, -⟩ := find_byId_iff _ hopen .readings upperCasedId
  refine ⟨hopen, ?_, lookUp.overlooked upperCased get?_upperCased not_lowerCase_upperCased⟩
  rw [Ne, lookUp.deleted, get?_upperCased]
  nofun

/-- The condition on an id overlooks a document that is stored under the id. -/
theorem overlooked_by_condition : ¬∀ (calls : List Call) (c : Collection) (k : ObjectId),
    (empty.after calls).closed = false →
      (answer (.find c (byId k) none) (empty.after calls)).1
        = .ok (((empty.after calls).table c).get? k).toList := by
  intro h
  have hopen : (empty.after [.insert .readings [upperCased]]).closed = false := by
    rw [after_insert_upperCased]
  have lookUp := byId_of_lawful hopen .readings upperCasedId
    (lawful_after [.insert .readings [upperCased]] .readings)
  exact not_lowerCase_upperCased
    (lookUp.found.1 (h _ .readings upperCasedId hopen) upperCased get?_upperCased)

end Telemetry.Memory
