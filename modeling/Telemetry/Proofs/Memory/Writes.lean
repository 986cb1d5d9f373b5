import Mathlib.Logic.Relation
import Telemetry.Memory
import Telemetry.Proofs.Json.Decoder

/-!
# What a store call does to a table

A table is only ever changed one document at a time: a new document is added, a stored one is put in
place of another, or documents go. A batch of new documents is added one by one.

* `Write` — one such change, with everything that has been checked before it.
* `answer_writes` — a call leaves every table as it was or after some of these changes. A property
  of tables that every `Write` keeps is kept by every call (`answer_keeps`) and by every run of
  calls (`after_keeps`).
-/

namespace Telemetry

/-- A document carries an id if the text in its id field is one of the texts of the id, with
capitals or without. -/
theorem Document.id_eq_ok {d : Document} {id : ObjectId} :
    d.id = .ok id ↔ ∃ s, d.get? "id" = some (.string s) ∧ ObjectId.parse? s = some id := by
  constructor
  · intro h
    unfold Document.id at h
    split at h
    · cases h
    · next s hs =>
      obtain ⟨v, hv, hvs⟩ := Option.bind_eq_some_iff.1 hs
      cases v <;> cases hvs
      split at h
      · next hp =>
        cases h
        exact ⟨s, hv, hp⟩
      · cases h
  · rintro ⟨s, hs, hp⟩
    simp [Document.id, hs, Json.Value.asString?, hp]

theorem Document.get?_withId (d : Document) (id : ObjectId) :
    (d.withId id).get? "id" = some (.string id.toHex) :=
  OrderedMap.get?_insert_self ..

namespace Memory

/-! ## The check of the unique field -/

/-- When the check of the unique field finds a value taken: another document has a value that
compares as the same. The document under the id itself is passed over, so an update may leave the
value. -/
theorem isTaken_iff {t : Table} {id : ObjectId} {field : String} {v : Json.Value} :
    isTaken t id field v = true ↔
      ∃ k d w, t.get? k = some d ∧ k ≠ id ∧ d.get? field = some w ∧ w.same v = true := by
  unfold isTaken
  simp only [List.any_eq_true, Prod.exists, OrderedMap.mem_entries, Bool.and_eq_true, bne_iff_ne,
    Option.any_eq_true]
  constructor
  · rintro ⟨k, d, hk, hne, w, hw, hs⟩
    exact ⟨k, d, w, hk, hne, hw, hs⟩
  · rintro ⟨k, d, w, hk, hne, hw, hs⟩
    exact ⟨k, d, hk, hne, w, hw, hs⟩

/-- The check passes exactly if no other document of the table has the value. A document without the
field, and a collection without a unique field, pass for want of a value. -/
theorem checkUnique_eq_ok {c : Collection} {t : Table} {id : ObjectId} {d : Document} :
    checkUnique c t id d = .ok () ↔
      ∀ field v, c.uniqueField? = some field → d.get? field = some v →
        isTaken t id field v = false := by
  unfold checkUnique
  split
  · next hc => simp [hc]
  · next field hc =>
    rw [hc]
    split
    · -- no value, nothing to check
      next hd =>
      refine ⟨fun _ field' v hf hv => ?_, fun _ => rfl⟩
      obtain rfl := Option.some.inj hf
      rw [hd] at hv
      cases hv
    · next v hd =>
      constructor
      · intro h field' v' hf hv
        obtain rfl := Option.some.inj hf
        obtain rfl := Option.some.inj (hd.symm.trans hv)
        rw [Bool.eq_false_iff]
        intro ht
        rw [if_pos ht] at h
        cases h
      · intro h
        rw [if_neg (by rw [h field v rfl hd]; decide)]

/-- A value that no document of two tables has is in no document of both together. -/
theorem checkUnique_insertAll {c : Collection} {stored staged : Table} {id : ObjectId}
    {d : Document} (hstored : checkUnique c stored id d = .ok ())
    (hstaged : checkUnique c staged id d = .ok ()) :
    checkUnique c (stored.insertAll staged) id d = .ok () := by
  rw [checkUnique_eq_ok] at *
  intro field v hc hd
  rw [Bool.eq_false_iff]
  intro ht
  obtain ⟨k, d', w, hk, hne, hw, hs⟩ := isTaken_iff.1 ht
  rw [OrderedMap.get?_insertAll, Option.or_eq_some_iff] at hk
  rcases hk with hk | ⟨-, hk⟩
  · have := isTaken_iff.2 ⟨k, d', w, hk, hne, hw, hs⟩
    rw [hstaged field v hc hd] at this
    cases this
  · have := isTaken_iff.2 ⟨k, d', w, hk, hne, hw, hs⟩
    rw [hstored field v hc hd] at this
    cases this

/-! ## Changes of one document

All calls change their table by the few kinds of writes below, each made after the checks that the
kind needs. An invariant of tables is therefore checked for a single write. -/

/-- A change of one document of a table, or the removal of some. Every call is a row of these, and
an invariant has to be checked for them only. -/
inductive Write (c : Collection) (t : Table) : Table → Prop where
  /-- a new document under the id it carries -/
  | add {id : ObjectId} {d : Document} (carries : d.id = .ok id) (new : t.get? id = none)
    (unique : checkUnique c t id d = .ok ()) : Write c t (t.insert id d)
  /-- another document in place of a stored one -/
  | change {id : ObjectId} {d next : Document} (stored : t.get? id = some d)
    (carries : next.get? "id" = some (.string id.toHex))
    (unique : checkUnique c t id next = .ok ()) : Write c t (t.insert id next)
  | remove (id : ObjectId) : Write c t (t.erase id)
  | keep (p : Document → Bool) : Write c t (t.filter p)

/-- Some changes, one after another. -/
abbrev Writes (c : Collection) : Table → Table → Prop := Relation.ReflTransGen (Write c)

/-- Staging a document is adding it to what is stored and staged, which is a write like that of a
single insertion. -/
theorem stageOne_write {c : Collection} {stored staged staged' : Table} {d : Document}
    (h : stageOne c stored staged d = .ok staged') :
    Write c (stored.insertAll staged) (stored.insertAll staged') := by
  unfold stageOne at h
  obtain ⟨id, hid, h⟩ := ok_of_bind h
  split at h
  · cases h
  · next hnew =>
    obtain ⟨⟨⟩, hstored, h⟩ := ok_of_bind h
    obtain ⟨⟨⟩, hstaged, h⟩ := ok_of_bind h
    obtain rfl := Except.ok.inj h
    simp only [Bool.or_eq_true, not_or, Bool.not_eq_true, OrderedMap.contains_eq_false_iff] at hnew
    rw [OrderedMap.insertAll_insert]
    refine .add hid ?_ (checkUnique_insertAll hstored hstaged)
    rw [OrderedMap.get?_insertAll, hnew.1, hnew.2]
    rfl

/-- Staging a batch is adding its documents one by one. -/
theorem stage_writes {c : Collection} {stored : Table} :
    ∀ {docs : List Document} {staged staged' : Table},
      stage c stored staged docs = .ok staged' →
        Writes c (stored.insertAll staged) (stored.insertAll staged')
  | [], _, _, h => by
    obtain rfl := Except.ok.inj h
    exact .refl
  | _ :: _, _, _, h => by
    obtain ⟨_, hone, hrest⟩ := ok_of_bind h
    exact .head (stageOne_write hone) (stage_writes hrest)

/-! ## Calls -/

theorem table_calls (m : Memory) (n : Nat) (c : Collection) :
    { m with calls := n }.table c = m.table c := by
  cases c <;> rfl

theorem table_closed (m : Memory) (b : Bool) (c : Collection) :
    { m with closed := b }.table c = m.table c := by
  cases c <;> rfl

section

variable (m : Memory) (c c' : Collection)

/-- An insertion is a row of writes to its table, and none to the others. -/
theorem insert_writes (docs : List Document) :
    Writes c' (m.table c') ((m.insert c docs).2.table c') := by
  unfold Memory.insert
  split
  · exact .refl
  · next staged h =>
    rw [table_setTable]
    split
    · next hc =>
      subst hc
      exact stage_writes h
    · exact .refl

/-- An update is one write of the document under its key, or none. -/
theorem update_writes (id : ObjectId) (u : Update) :
    Writes c' (m.table c') ((m.update c id u).2.table c') := by
  unfold Memory.update
  split
  · exact .refl
  · next d hd =>
    dsimp only
    split
    · exact .refl
    · next hu =>
      rw [table_setTable]
      split
      · next hc =>
        subst hc
        exact .single (.change hd (Document.get?_withId ..) hu)
      · exact .refl

/-- A deletion is one removal, or none. -/
theorem delete_writes (id : ObjectId) :
    Writes c' (m.table c') ((m.delete c id).2.table c') := by
  unfold Memory.delete
  split
  · rw [table_setTable]
    split
    · next hc =>
      subst hc
      exact .single (.remove id)
    · exact .refl
  · exact .refl

/-- The deletion of all documents of a filter is one write, which keeps the others: a table loses
many documents at once, but never gains or changes one. -/
theorem deleteAll_writes (f : Filter) :
    Writes c' (m.table c') ((m.deleteAll c f).2.table c') := by
  unfold Memory.deleteAll
  dsimp only
  rw [table_setTable]
  split
  · next hc =>
    subst hc
    exact .single (.keep _)
  · exact .refl

end

/-- A closed store leaves its tables, so a reflexive relation is checked for an open one only. The
counting of the call does not touch the tables. -/
theorem table_whenOpen {α : Type} {R : Table → Table → Prop} (refl : ∀ t, R t t) {c : Collection}
    {k : Memory → Except StoreError α × Memory}
    (hk : ∀ m : Memory, R (m.table c) ((k m).2.table c)) (m : Memory) :
    R (m.table c) ((m.whenOpen k).2.table c) := by
  unfold whenOpen
  split
  · exact refl _
  · rw [← table_calls m (m.calls + 1) c]
    exact hk _

/-- A call leaves every table as it was or changed document by document, also if it fails. This is
the step of every invariant of the store. -/
theorem answer_writes (call : Call) (m : Memory) (c : Collection) :
    Writes c (m.table c) ((answer call m).2.table c) := by
  have opened {α : Type} (k : Memory → Except StoreError α × Memory)
      (hk : ∀ m : Memory, Writes c (m.table c) ((k m).2.table c)) :
      Writes c (m.table c) ((m.whenOpen k).2.table c) :=
    table_whenOpen (fun _ => .refl) hk m
  cases call with
  | ping => exact opened _ fun _ => .refl
  | insert c' docs => exact opened _ fun m => m.insert_writes c' c docs
  | find c' f limit => exact opened _ fun _ => .refl
  | count c' f => exact opened _ fun _ => .refl
  | update c' id u => exact opened _ fun m => m.update_writes c' c id u
  | delete c' id => exact opened _ fun m => m.delete_writes c' c id
  | deleteAll c' f => exact opened _ fun m => m.deleteAll_writes c' c f
  | close =>
    change Writes c (m.table c) (Memory.table { m with closed := true } c)
    rw [table_closed m true c]

/-- A property of tables that every change of one document keeps is kept by every call. -/
theorem answer_keeps {P : Collection → Table → Prop}
    (step : ∀ c t t', Write c t t' → P c t → P c t') (call : Call) {m : Memory}
    (h : ∀ c, P c (m.table c)) (c : Collection) : P c ((answer call m).2.table c) := by
  have closure {t t' : Table} (hw : Writes c t t') (ht : P c t) : P c t' := by
    induction hw with
    | refl => exact ht
    | tail _ hw ih => exact step c _ _ hw ih
  exact closure (answer_writes call m c) (h c)

/-! ## Runs -/

/-- The store after calls that come one after another, whoever makes them. Calls that fail are among
them. -/
def after (m : Memory) (calls : List Call) : Memory :=
  calls.foldl (fun m call => (answer call m).2) m

/-- A property of tables that every change of one document keeps is kept by every run. -/
theorem after_keeps {P : Collection → Table → Prop}
    (step : ∀ c t t', Write c t t' → P c t → P c t') :
    ∀ (calls : List Call) {m : Memory}, (∀ c, P c (m.table c)) →
      ∀ c, P c ((m.after calls).table c)
  | [], _, h => h
  | call :: calls, _, h => after_keeps step calls (answer_keeps step call h)

end Memory

end Telemetry
