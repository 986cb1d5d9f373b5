import Telemetry.Proofs.Client.Loading
import Telemetry.Proofs.Json.Equality
import Telemetry.Proofs.Memory.Writes

/-!
# A batch of documents is stored like its documents one by one

The store checks a batch against two tables, what is stored and what is staged, before it writes
anything. The two tables have no id in common, so they are checked like the one table that holds
both, and that is the table into which the documents would have gone one by one.

* `adopt` — one document joins a table if it passes the checks; `adopt_insertAll` says that staging
  a document is adopting it into what is stored and staged, with the same error if it is refused.
* `insert_eq_adoptAll`, `exec_each` — a batch and single insertions adopt documents in a row.
* `Insertable` — which documents can be adopted, said without an order (`insertable_perm`).
* `batch_insert` — the whole behaviour of a batch.
-/

namespace Telemetry.Memory

/-- Add a new document to a table, if its id is new and its unique field has a new value. This is
what one insertion does to the table; unlike the staging of a batch it looks at one table only. -/
def adopt (c : Collection) (t : Table) (d : Document) : Except StoreError Table := do
  let id ← d.id
  if t.contains id then throw (.unexpected (.duplicateId id))
  checkUnique c t id d
  return t.insert id d

/-- Add documents to a table in turn, up to the first that is refused. -/
def adoptAll (c : Collection) (t : Table) (docs : List Document) : Except StoreError Table :=
  docs.foldlM (adopt c) t

section

variable {c : Collection} {t t' : Table} {d : Document} {docs : List Document}

/-- What a document needs to be adopted, and the table it leaves. All later proofs go through this
and do not open `adopt` again. -/
theorem adopt_eq_ok :
    adopt c t d = .ok t' ↔ ∃ id, d.id = .ok id ∧ t.get? id = none ∧
      checkUnique c t id d = .ok () ∧ t' = t.insert id d := by
  constructor
  · intro h
    obtain ⟨id, hid, h⟩ := ok_of_bind h
    split at h
    · cases h
    · next hnew =>
      obtain ⟨⟨⟩, unique, h⟩ := ok_of_bind h
      rw [Bool.not_eq_true, OrderedMap.contains_eq_false_iff] at hnew
      exact ⟨id, hid, hnew, unique, (Except.ok.inj h).symm⟩
  · rintro ⟨id, hid, hnew, unique, rfl⟩
    rw [← OrderedMap.contains_eq_false_iff] at hnew
    simp only [adopt, hid, bind, Except.bind, hnew, unique]
    rfl

theorem adoptAll_cons_ok {t₁ : Table} (h : adopt c t d = .ok t₁) :
    adoptAll c t (d :: docs) = adoptAll c t₁ docs := by
  rw [adoptAll, List.foldlM_cons, h]
  rfl

theorem adoptAll_cons_error {e : StoreError} (h : adopt c t d = .error e) :
    adoptAll c t (d :: docs) = .error e := by
  rw [adoptAll, List.foldlM_cons, h]
  rfl

@[simp] theorem adoptAll_singleton : adoptAll c t [d] = adopt c t d := by
  rw [adoptAll, List.foldlM_cons]
  cases adopt c t d <;> rfl

end

/-! ## Staging -/

/-- No id of the staged documents is stored. Staging keeps this, since it refuses an id that is in
either table, and without it the two tables could not be read as one: a staged document would hide a
stored one with another value. -/
def Apart (stored staged : Table) : Prop :=
  ∀ k, (staged.get? k).isSome → stored.get? k = none

section

variable {c : Collection} {stored staged staged' : Table} {d : Document}

/-- A value is taken in both tables together if it is taken in one of them. From right to left this
needs the tables to be apart, so that the stored document that has the value is not hidden. -/
theorem Apart.isTaken_insertAll (h : Apart stored staged) (id : ObjectId) (field : String)
    (v : Json.Value) :
    isTaken (stored.insertAll staged) id field v
      = (isTaken stored id field v || isTaken staged id field v) := by
  rw [Bool.eq_iff_iff, Bool.or_eq_true, isTaken_iff, isTaken_iff, isTaken_iff]
  constructor
  · rintro ⟨k, d, w, hk, hrest⟩
    rw [OrderedMap.get?_insertAll, Option.or_eq_some_iff] at hk
    rcases hk with hk | ⟨-, hk⟩
    · exact .inr ⟨k, d, w, hk, hrest⟩
    · exact .inl ⟨k, d, w, hk, hrest⟩
  · rintro (⟨k, d, w, hk, hrest⟩ | ⟨k, d, w, hk, hrest⟩)
    · have unstaged : staged.get? k = none := by
        -- an id that is stored is not staged
        cases hs : staged.get? k with
        | none => rfl
        | some d' => exact absurd ((h k (by rw [hs]; rfl)).symm.trans hk) (by simp)
      exact ⟨k, d, w, by rw [OrderedMap.get?_insertAll, unstaged, hk]; rfl, hrest⟩
    · exact ⟨k, d, w, by rw [OrderedMap.get?_insertAll, hk]; rfl, hrest⟩

/-- Checking a document against two tables is checking it against both together; the error names the
document's own value, whichever table has it. -/
theorem Apart.checkUnique_insertAll (h : Apart stored staged) (id : ObjectId) :
    checkUnique c (stored.insertAll staged) id d
      = (checkUnique c stored id d >>= fun _ => checkUnique c staged id d) := by
  unfold checkUnique
  split
  · rfl
  · next field _ =>
    split
    · rfl
    · next v _ =>
      rw [h.isTaken_insertAll]
      cases isTaken stored id field v <;> rfl

theorem contains_insertAll (id : ObjectId) :
    (stored.insertAll staged).contains id = (stored.contains id || staged.contains id) := by
  unfold OrderedMap.contains
  rw [OrderedMap.get?_insertAll]
  cases staged.get? id <;> cases stored.get? id <;> rfl

/-- Staging a document is adopting it into what is stored and staged, with the same error. -/
theorem adopt_insertAll (h : Apart stored staged) :
    adopt c (stored.insertAll staged) d = (stageOne c stored staged d).map stored.insertAll := by
  unfold adopt stageOne
  -- the id, the table and the value are checked in this order on both sides, so the errors agree
  -- too
  cases d.id with
  | error e => rfl
  | ok id =>
    simp only [bind, Except.bind]
    rw [contains_insertAll, h.checkUnique_insertAll id]
    split
    · rfl
    · cases checkUnique c stored id d with
      | error e => rfl
      | ok _ =>
        simp only [bind, Except.bind]
        cases checkUnique c staged id d with
        | error e => rfl
        | ok _ => exact congrArg Except.ok (OrderedMap.insertAll_insert ..).symm

/-- A staged document leaves the tables apart: its id is neither stored nor staged. -/
theorem Apart.stageOne (h : Apart stored staged)
    (hstage : stageOne c stored staged d = .ok staged') : Apart stored staged' := by
  obtain ⟨id, -, hstage⟩ := ok_of_bind hstage
  split at hstage
  · cases hstage
  · next hnew =>
    obtain ⟨⟨⟩, -, hstage⟩ := ok_of_bind hstage
    obtain ⟨⟨⟩, -, hstage⟩ := ok_of_bind hstage
    obtain rfl := Except.ok.inj hstage
    simp only [Bool.or_eq_true, not_or, Bool.not_eq_true, OrderedMap.contains_eq_false_iff] at hnew
    intro k hk
    obtain ⟨d', hk⟩ := Option.isSome_iff_exists.1 hk
    rcases OrderedMap.get?_insert_eq_some hk with ⟨rfl, -⟩ | ⟨-, hk⟩
    · exact hnew.1
    · exact h k (by rw [hk]; rfl)

theorem Apart.empty (stored : Table) : Apart stored ∅ := fun _ h => by cases h

/-- Staging a batch is adopting its documents in turn, into the table of what is stored and staged.
The induction is over the batch with any staged documents, as each document is checked against those
before it. -/
theorem adoptAll_insertAll (h : Apart stored staged) (docs : List Document) :
    adoptAll c (stored.insertAll staged) docs
      = (stage c stored staged docs).map stored.insertAll := by
  induction docs generalizing staged with
  | nil => rfl
  | cons d docs ih =>
    rw [stage]
    cases hone : Memory.stageOne c stored staged d with
    | error e =>
      have refused : adopt c (stored.insertAll staged) d = .error e := by
        rw [adopt_insertAll h, hone]
        rfl
      rw [adoptAll_cons_error refused]
      rfl
    | ok staged' =>
      have adopted : adopt c (stored.insertAll staged) d = .ok (stored.insertAll staged') := by
        rw [adopt_insertAll h, hone]
        rfl
      rw [adoptAll_cons_ok adopted, ih (h.stageOne hone)]
      rfl

end

/-! ## Batches and single documents -/

/-- A batch is stored as the table to which its documents can be adopted, or not at all: at the
start nothing is staged, so both tables together are the stored one. -/
theorem insert_eq_adoptAll (m : Memory) (c : Collection) (docs : List Document) :
    m.insert c docs = match adoptAll c (m.table c) docs with
      | .error e => (.error e, m)
      | .ok t => (.ok (), m.setTable c t) := by
  have staging := adoptAll_insertAll (c := c) (Apart.empty (m.table c)) docs
  rw [OrderedMap.insertAll_empty] at staging
  rw [insert, staging]
  cases stage c (m.table c) ∅ docs <;> rfl

theorem closed_setTable (m : Memory) (c : Collection) (t : Table) (n : Nat) :
    ({ m.setTable c t with calls := n } : Memory).closed = m.closed := by
  cases c <;> rfl

section

variable {m : Memory} (hopen : m.closed = false) (c : Collection) (docs : List Document)

include hopen

/-- The answer to a batch in an open store. A refused batch leaves nothing but the counted call. -/
theorem answer_insert :
    answer (.insert c docs) m = match adoptAll c (m.table c) docs with
      | .error e => (.error e, { m with calls := m.calls + 1 })
      | .ok t => (.ok (), { m.setTable c t with calls := m.calls + 1 }) := by
  change (m.whenOpen fun m => m.insert c docs) = _
  rw [whenOpen_of_open hopen, insert_eq_adoptAll, table_calls]
  cases adoptAll c (m.table c) docs with
  | error e => rfl
  | ok t => cases c <;> rfl

variable (around : Surroundings) (taken : Nat)

/-- An action that inserts one document adopts it. -/
theorem exec_insertOne (d : Document) :
    Program.exec backend around (Action.insertOne c d) ⟨m, taken⟩
      = match adopt c (m.table c) d with
        | .error e => (.error e, ⟨{ m with calls := m.calls + 1 }, taken⟩)
        | .ok t => (.ok (), ⟨{ m.setTable c t with calls := m.calls + 1 }, taken⟩) := by
  have one : Program.exec backend around (Action.insertOne c d) ⟨m, taken⟩
      = ((answer (.insert c [d]) m).1, ⟨(answer (.insert c [d]) m).2, taken⟩) := rfl
  rw [one, answer_insert hopen, adoptAll_singleton]
  cases adopt c (m.table c) d <;> rfl

/-- Documents that are inserted one after another are adopted in turn, and each of them is a call of
its own. Nothing is said of the store after a refused document, which keeps those before it: there
the batch and the single insertions differ. -/
theorem exec_each :
    ∃ w, Program.exec backend around (forM docs (Action.insertOne c)) ⟨m, taken⟩
        = ((adoptAll c (m.table c) docs).map fun _ => (), w) ∧
      ∀ t, adoptAll c (m.table c) docs = .ok t →
        w = ⟨{ m.setTable c t with calls := m.calls + docs.length }, taken⟩ := by
  induction docs generalizing m with
  | nil =>
    refine ⟨⟨m, taken⟩, rfl, fun t ht => ?_⟩
    obtain rfl := Except.ok.inj ht
    cases c <;> rfl
  | cons d docs ih =>
    rw [List.forM_cons, Program.exec_bind, exec_insertOne hopen]
    cases hd : adopt c (m.table c) d with
    | error e =>
      rw [adoptAll_cons_error hd]
      exact ⟨_, rfl, nofun⟩
    | ok t =>
      rw [adoptAll_cons_ok hd]
      -- the induction hypothesis speaks of the table after this document
      have next : ({ m.setTable c t with calls := m.calls + 1 } : Memory).table c = t := by
        rw [table_calls, table_setTable, if_pos rfl]
      obtain ⟨w, hrun, hw⟩ := ih ((closed_setTable m c t (m.calls + 1)).trans hopen)
      rw [next] at hrun hw
      refine ⟨w, hrun, fun t' ht' => ?_⟩
      rw [hw t' ht', List.length_cons, Nat.add_comm docs.length, ← Nat.add_assoc]
      cases c <;> rfl

end

/-! ## Which batches are stored

A batch is checked in its order, and a document is refused for what comes before it. Still the order
does not decide whether all of them can be stored, since clashes are between two documents. -/

/-- The documents carry ids, these are new and differ, and so are the values of the unique field, as
far as the documents have them. No order of the documents and no intermediate table occurs in this.
-/
structure Insertable (c : Collection) (t : Table) (docs : List Document) : Prop where
  carries : ∀ d ∈ docs, ∃ id, d.id = .ok id
  newIds : ∀ d ∈ docs, ∀ id, d.id = .ok id → t.get? id = none
  distinctIds : docs.Pairwise fun d d' => d.id ≠ d'.id
  newValues : ∀ field, c.uniqueField? = some field → ∀ d ∈ docs, ∀ v, d.get? field = some v →
    ∀ k e w, t.get? k = some e → e.get? field = some w → v.same w = false
  distinctValues : ∀ field, c.uniqueField? = some field → docs.Pairwise fun d d' =>
    ∀ v v', d.get? field = some v → d'.get? field = some v' → v.same v' = false

section

variable {c : Collection} {t t' : Table} {d : Document} {docs docs' : List Document}

/-- A new document passes the check of its unique field if no document of the table has its value.
The check itself passes over the document that is being replaced; here there is none. -/
theorem checkUnique_new {id : ObjectId} (hnew : t.get? id = none) :
    checkUnique c t id d = .ok () ↔ ∀ field, c.uniqueField? = some field → ∀ v,
      d.get? field = some v → ∀ k e w, t.get? k = some e → e.get? field = some w →
        v.same w = false := by
  rw [checkUnique_eq_ok]
  constructor
  · intro h field hf v hv k e w hk hw
    rw [Json.Value.same_comm, Bool.eq_false_iff]
    intro hs
    -- the check passes over the document's own id, which no document of the table has
    have hne : k ≠ id := by
      rintro rfl
      rw [hnew] at hk
      cases hk
    have untaken := h field v hf hv
    rw [isTaken_iff.2 ⟨k, e, w, hk, hne, hw, hs⟩] at untaken
    cases untaken
  · intro h field v hf hv
    rw [Bool.eq_false_iff]
    intro ht
    obtain ⟨k, e, w, hk, -, hw, hs⟩ := isTaken_iff.1 ht
    rw [Json.Value.same_comm, h field hf v hv k e w hk hw] at hs
    cases hs

theorem insertable_nil : Insertable c t [] := by
  constructor <;> simp

/-- A batch can be stored if its first document can be adopted, and the others after it. The
conditions on pairs go over into conditions on the new table, where the first document is one of the
stored. -/
theorem insertable_cons :
    Insertable c t (d :: docs) ↔ ∃ t', adopt c t d = .ok t' ∧ Insertable c t' docs := by
  constructor
  · intro h
    obtain ⟨id, hid⟩ := h.carries d (List.mem_cons_self ..)
    have hnew := h.newIds d (List.mem_cons_self ..) id hid
    have unique : checkUnique c t id d = .ok () :=
      (checkUnique_new hnew).2 fun field hf => h.newValues field hf d (List.mem_cons_self ..)
    refine ⟨t.insert id d, adopt_eq_ok.2 ⟨id, hid, hnew, unique, rfl⟩, ?_⟩
    obtain ⟨hids, distinctIds⟩ := List.pairwise_cons.1 h.distinctIds
    refine ⟨fun e he => h.carries e (List.mem_cons_of_mem _ he), fun e he k hk => ?_, distinctIds,
      fun field hf e he v hv k e' w hk hw => ?_,
      fun field hf => (List.pairwise_cons.1 (h.distinctValues field hf)).2⟩
    · have hne : k ≠ id := by
        rintro rfl
        exact hids e he (hid.trans hk.symm)
      rw [OrderedMap.get?_insert_of_ne t d hne]
      exact h.newIds e (List.mem_cons_of_mem _ he) k hk
    · rcases OrderedMap.get?_insert_eq_some hk with ⟨rfl, rfl⟩ | ⟨-, hk⟩
      · rw [Json.Value.same_comm]
        exact (List.pairwise_cons.1 (h.distinctValues field hf)).1 e he w v hw hv
      · exact h.newValues field hf e (List.mem_cons_of_mem _ he) v hv k e' w hk hw
  · rintro ⟨t', hd, h⟩
    obtain ⟨id, hid, hnew, unique, rfl⟩ := adopt_eq_ok.1 hd
    -- that the others differ from `d` is seen by looking up `d` in the table with it
    have stored : (t.insert id d).get? id = some d := OrderedMap.get?_insert_self ..
    have kept {k : ObjectId} {e : Document} (hk : t.get? k = some e) :
        (t.insert id d).get? k = some e := by
      rw [OrderedMap.get?_insert_of_ne, hk]
      rintro rfl
      rw [hnew] at hk
      cases hk
    refine ⟨List.forall_mem_cons.2 ⟨⟨id, hid⟩, h.carries⟩,
      List.forall_mem_cons.2 ⟨fun k hk => ?_, fun e he k hk => ?_⟩,
      List.pairwise_cons.2 ⟨fun e he heq => ?_, h.distinctIds⟩,
      fun field hf => List.forall_mem_cons.2 ⟨(checkUnique_new hnew).1 unique field hf,
        fun e he v hv k e' w hk => h.newValues field hf e he v hv k e' w (kept hk)⟩,
      fun field hf => List.pairwise_cons.2 ⟨fun e he v v' hv hv' => ?_,
        h.distinctValues field hf⟩⟩
    · obtain rfl := Except.ok.inj (hid.symm.trans hk)
      exact hnew
    · have := h.newIds e he k hk
      rw [OrderedMap.get?_insert] at this
      split at this
      · cases this
      · exact this
    · rw [h.newIds e he id (heq.symm.trans hid)] at stored
      cases stored
    · rw [Json.Value.same_comm]
      exact h.newValues field hf e he v' hv' id d v stored hv

/-- The documents can be stored exactly if they can be adopted in turn. So the order in which they
are adopted decides which error is told, and not whether there is one. -/
theorem insertable_iff : Insertable c t docs ↔ ∃ t', adoptAll c t docs = .ok t' := by
  induction docs generalizing t with
  | nil => exact ⟨fun _ => ⟨t, rfl⟩, fun _ => insertable_nil⟩
  | cons d docs ih =>
    rw [insertable_cons]
    constructor
    · rintro ⟨t₁, hd, h⟩
      rw [adoptAll_cons_ok hd]
      exact ih.1 h
    · intro h
      cases hd : adopt c t d with
      | error e =>
        rw [adoptAll_cons_error hd] at h
        obtain ⟨t', h⟩ := h
        cases h
      | ok t₁ =>
        rw [adoptAll_cons_ok hd] at h
        exact ⟨t₁, rfl, ih.2 h⟩

/-- Whether documents can be stored does not depend on their order, since two values are the same in
either order. -/
theorem insertable_perm (h : docs.Perm docs') : Insertable c t docs → Insertable c t docs' := by
  intro hi
  refine ⟨fun d hd => hi.carries d (h.mem_iff.2 hd), fun d hd => hi.newIds d (h.mem_iff.2 hd),
    (h.pairwise_iff fun hne => hne.symm).1 hi.distinctIds,
    fun field hf d hd => hi.newValues field hf d (h.mem_iff.2 hd), fun field hf => ?_⟩
  refine (h.pairwise_iff fun {d d'} hne v v' hv hv' => ?_).1 (hi.distinctValues field hf)
  rw [Json.Value.same_comm]
  exact hne v' v hv' hv

/-! ## What is stored -/

/-- After an adoption the table has what it had and the documents, each under the id it carries. -/
theorem get?_adoptAll (h : adoptAll c t docs = .ok t') (k : ObjectId) (e : Document) :
    t'.get? k = some e ↔ e ∈ docs ∧ e.id = .ok k ∨ t.get? k = some e := by
  induction docs generalizing t with
  | nil =>
    obtain rfl := Except.ok.inj h
    simp
  | cons d docs ih =>
    cases hd : adopt c t d with
    | error err =>
      rw [adoptAll_cons_error hd] at h
      cases h
    | ok t₁ =>
      rw [adoptAll_cons_ok hd] at h
      obtain ⟨id, hid, hnew, -, rfl⟩ := adopt_eq_ok.1 hd
      -- one document: it is found under its id, and whatever was found before still is
      have first : (t.insert id d).get? k = some e ↔ e = d ∧ e.id = .ok k ∨ t.get? k = some e := by
        constructor
        · intro hk
          rcases OrderedMap.get?_insert_eq_some hk with ⟨rfl, rfl⟩ | ⟨-, hk⟩
          · exact .inl ⟨rfl, hid⟩
          · exact .inr hk
        · rintro (⟨rfl, hk⟩ | hk)
          · obtain rfl := Except.ok.inj (hid.symm.trans hk)
            exact OrderedMap.get?_insert_self ..
          · rw [OrderedMap.get?_insert_of_ne, hk]
            rintro rfl
            rw [hnew] at hk
            cases hk
      rw [ih h, first, List.mem_cons, ← or_assoc, ← or_and_right, or_comm (a := e ∈ docs)]

/-- In another order the same documents give the same table: its lookups are the same, and a table
is determined by them. -/
theorem adoptAll_perm (hp : docs.Perm docs') (h : adoptAll c t docs = .ok t') :
    adoptAll c t docs' = .ok t' := by
  obtain ⟨t'', h'⟩ := insertable_iff.1 (insertable_perm hp (insertable_iff.2 ⟨t', h⟩))
  rw [h']
  refine congrArg Except.ok (OrderedMap.ext_get? fun k => Option.ext fun e => ?_)
  rw [get?_adoptAll h' k e, get?_adoptAll h k e, hp.mem_iff]

/-- A batch is refused by one of its documents, after those before it have been adopted. It is the
first, as an adoption does not go on after an error. -/
theorem adoptAll_error {e : StoreError} (h : adoptAll c t docs = .error e) :
    ∃ before d after t₁, docs = before ++ d :: after ∧ adoptAll c t before = .ok t₁ ∧
      adopt c t₁ d = .error e := by
  induction docs generalizing t with
  | nil => cases h
  | cons d docs ih =>
    cases hd : adopt c t d with
    | error e' =>
      rw [adoptAll_cons_error hd] at h
      exact ⟨[], d, docs, t, rfl, rfl, Except.error.inj h ▸ hd⟩
    | ok t₁ =>
      rw [adoptAll_cons_ok hd] at h
      obtain ⟨before, d', after, t₂, rfl, hbefore, hd'⟩ := ih h
      exact ⟨d :: before, d', after, t₂, rfl, by rw [adoptAll_cons_ok hd, hbefore], hd'⟩

end

/-! ## The behaviour of a batch -/

section

variable (c : Collection) (docs : List Document) (m : Memory) (around : Surroundings) (taken : Nat)

/-- How a batch is stored, against the same documents one after another: when it succeeds, what it
answers, what it leaves, and that the order of the documents decides nothing but the error. -/
structure StoredAsOne : Prop where
  succeeds : (answer (.insert c docs) m).1 = .ok () ↔ Insertable c (m.table c) docs
  /-- a batch and single insertions are answered alike, also with the same error -/
  sameAnswer : (answer (.insert c docs) m).1
    = (Program.exec backend around (forM docs (Action.insertOne c)) ⟨m, taken⟩).1
  /-- they leave the same store, but for the number of calls -/
  sameStore : (answer (.insert c docs) m).1 = .ok () →
    Program.exec backend around (forM docs (Action.insertOne c)) ⟨m, taken⟩
      = (.ok (), ⟨{ (answer (.insert c docs) m).2 with calls := m.calls + docs.length }, taken⟩)
  stores : (answer (.insert c docs) m).1 = .ok () → ∀ k d,
    ((answer (.insert c docs) m).2.table c).get? k = some d ↔
      d ∈ docs ∧ d.id = .ok k ∨ (m.table c).get? k = some d
  unchanged : ∀ e, (answer (.insert c docs) m).1 = .error e →
    ∀ c', (answer (.insert c docs) m).2.table c' = m.table c'
  /-- the error is that of the first document that is refused after those before it -/
  firstRefused : ∀ e, (answer (.insert c docs) m).1 = .error e →
    ∃ before d after w, docs = before ++ d :: after ∧
      Program.exec backend around (forM before (Action.insertOne c)) ⟨m, taken⟩ = (.ok (), w) ∧
      (Program.exec backend around (Action.insertOne c d) w).1 = .error e
  anyOrder : ∀ docs', docs.Perm docs' →
    ((answer (.insert c docs') m).1 = .ok () ↔ (answer (.insert c docs) m).1 = .ok ()) ∧
      (answer (.insert c docs') m).2 = (answer (.insert c docs) m).2

end

section

variable {c : Collection} {docs : List Document} {m : Memory} (hopen : m.closed = false)
  (around : Surroundings) (taken : Nat)

include hopen

/-- The document that ends a batch ends the single insertions too: those before it are adopted one
by one, and it is refused by what they leave. -/
theorem first_refused {e : StoreError} (hall : adoptAll c (m.table c) docs = .error e) :
    ∃ before d after w, docs = before ++ d :: after ∧
      Program.exec backend around (forM before (Action.insertOne c)) ⟨m, taken⟩ = (.ok (), w) ∧
      (Program.exec backend around (Action.insertOne c d) w).1 = .error e := by
  obtain ⟨before, d, after, t, hdocs, hbefore, hd⟩ := adoptAll_error hall
  obtain ⟨w, hrun, hw⟩ := exec_each hopen c before around taken
  rw [hbefore] at hrun
  refine ⟨before, d, after, w, hdocs, hrun, ?_⟩
  have opened := (closed_setTable m c t (m.calls + before.length)).trans hopen
  rw [hw t hbefore, exec_insertOne opened, table_calls, table_setTable, if_pos rfl, hd]

/-- A batch that cannot be adopted is refused with the same error in either way, and leaves every
collection as it was. -/
theorem StoredAsOne.of_refused {e : StoreError} (hall : adoptAll c (m.table c) docs = .error e) :
    StoredAsOne c docs m around taken := by
  obtain ⟨w, hrun, -⟩ := exec_each hopen c docs around taken
  have batch := answer_insert hopen c docs
  rw [hall] at batch hrun
  dsimp only at batch
  refine ⟨?succeeds, ?sameAnswer, ?sameStore, ?stores, ?unchanged, ?firstRefused, ?anyOrder⟩
  case succeeds =>
    rw [batch, insertable_iff, hall]
    simp
  case sameAnswer => rw [batch, hrun]; rfl
  case sameStore => rw [batch]; nofun
  case stores => rw [batch]; nofun
  case unchanged =>
    rw [batch]
    exact fun _ _ c' => table_calls m (m.calls + 1) c'
  case firstRefused =>
    rw [batch]
    intro e' he
    obtain rfl := Except.error.inj he
    exact first_refused hopen around taken hall
  -- a batch that could be adopted in another order could be in this one
  case anyOrder =>
    intro docs' hp
    cases hall' : adoptAll c (m.table c) docs' with
    | error e' =>
      rw [batch, answer_insert hopen, hall']
      simp
    | ok t =>
      rw [adoptAll_perm hp.symm hall'] at hall
      cases hall

/-- A batch that can be adopted is stored as a whole, and the table is the one that the single
insertions leave. -/
theorem StoredAsOne.of_adopted {t : Table} (hall : adoptAll c (m.table c) docs = .ok t) :
    StoredAsOne c docs m around taken := by
  obtain ⟨w, hrun, hw⟩ := exec_each hopen c docs around taken
  have batch := answer_insert hopen c docs
  rw [hall] at batch hrun
  dsimp only at batch
  refine ⟨?succeeds, ?sameAnswer, ?sameStore, ?stores, ?unchanged, ?firstRefused, ?anyOrder⟩
  case succeeds =>
    rw [batch, insertable_iff, hall]
    simp
  case sameAnswer => rw [batch, hrun]; rfl
  case sameStore =>
    rw [batch, hrun, hw t hall]
    exact fun _ => rfl
  case stores =>
    rw [batch, table_calls, table_setTable, if_pos rfl]
    exact fun _ => get?_adoptAll hall
  case unchanged =>
    rw [batch]
    exact fun _ he => by cases he
  case firstRefused =>
    rw [batch]
    exact fun _ he => by cases he
  case anyOrder =>
    intro docs' hp
    rw [batch, answer_insert hopen, adoptAll_perm hp hall]
    simp

end

/-- **All or none**: a batch is stored as a whole or not at all, and as its documents would be one
by one: it succeeds if they can all be added, in whatever order they come, and else it fails with
the error of the first that cannot. -/
theorem batch_insert (c : Collection) (docs : List Document) {m : Memory}
    (hopen : m.closed = false) (around : Surroundings) (taken : Nat) :
    StoredAsOne c docs m around taken := by
  -- both ways of inserting come down to adopting the documents in turn
  cases hall : adoptAll c (m.table c) docs with
  | error e => exact .of_refused hopen around taken hall
  | ok t => exact .of_adopted hopen around taken hall

/-- Two descriptors with one name: neither is stored, although the first alone could be. Inserted
one by one the first would stay. -/
theorem batch_insert_of_equal_names :
    let named (id : String) : Document := .ofFields [("id", .string id), ("name", .string "temp")]
    let docs := [named "5a1b2c3d4e5f60718293a4b5", named "5a1b2c3d4e5f60718293a4b6"]
    empty.closed = false ∧ (answer (.insert .valueDescriptors docs) empty).1 ≠ .ok () ∧
      ∀ e, (answer (.insert .valueDescriptors docs) empty).1 = .error e →
        ∀ c, (answer (.insert .valueDescriptors docs) empty).2.table c = empty.table c := by
  intro named docs
  have stored := batch_insert .valueDescriptors docs (m := empty) rfl ⟨0, fun _ => .nil⟩ 0
  refine ⟨rfl, fun hok => ?_, stored.unchanged⟩
  have distinct := (stored.succeeds.1 hok).distinctValues "name" rfl
  have different := (List.pairwise_cons.1 distinct).1 _ (List.mem_singleton_self _)
    (.string "temp") (.string "temp") rfl rfl
  rw [Json.Value.same_string.2 rfl] at different
  cases different

end Telemetry.Memory
