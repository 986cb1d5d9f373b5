import Telemetry.Proofs.Json.Equality
import Telemetry.Proofs.Memory.Writes

/-!
# Names are unique in every reachable store

The store checks a new name against what is stored and against what is staged with it, and passes
over the document's own id. That this is enough is an invariant of single tables, kept by every
change of one document and so by every run of calls, failed ones included.

* `Lawful` — the invariant: documents lie under the id they carry, and no two of them have equal
  values in the unique field.
* `names_unique_after` — what it says of every store that calls can lead to.
-/

namespace Telemetry.Memory

/-- The documents of a table lie under the ids they carry and differ in the unique field. This is
the invariant of the in-memory store, and calls of every kind keep it. -/
structure Lawful (c : Collection) (t : Table) : Prop where
  carries : ∀ k d, t.get? k = some d → d.id = .ok k
  distinct : ∀ field, c.uniqueField? = some field → ∀ k k' d d' v v', k ≠ k' →
    t.get? k = some d → t.get? k' = some d' → d.get? field = some v → d'.get? field = some v' →
    v.same v' = false

theorem Lawful.empty (c : Collection) : Lawful c ∅ where
  carries _ _ h := by cases h
  distinct _ _ _ _ _ _ _ _ _ h := by cases h

/-- What goes cannot clash. -/
theorem Lawful.mono {c : Collection} {t t' : Table} (h : Lawful c t)
    (hsub : ∀ k d, t'.get? k = some d → t.get? k = some d) : Lawful c t' where
  carries k d hd := h.carries k d (hsub k d hd)
  distinct field hf k k' d d' v v' hne hd hd' :=
    h.distinct field hf k k' d d' v v' hne (hsub k d hd) (hsub k' d' hd')

/-- A document that passes the check under its own id clashes with no other. -/
theorem Lawful.insert {c : Collection} {t : Table} {id : ObjectId} {d : Document}
    (h : Lawful c t) (hid : d.id = .ok id) (hu : checkUnique c t id d = .ok ()) :
    Lawful c (t.insert id d) := by
  -- a pair of the new table has the new document in it once at most
  have clash {field : String} (hf : c.uniqueField? = some field) {k : ObjectId} {d' : Document}
      {v v' : Json.Value} (hne : k ≠ id) (hk : t.get? k = some d') (hv : d.get? field = some v)
      (hv' : d'.get? field = some v') : v'.same v = false := by
    have := checkUnique_eq_ok.1 hu field v hf hv
    rw [Bool.eq_false_iff] at this ⊢
    exact fun hs => this (isTaken_iff.2 ⟨k, d', v', hk, hne, hv', hs⟩)
  constructor
  · intro k d' hk
    rcases OrderedMap.get?_insert_eq_some hk with ⟨rfl, rfl⟩ | ⟨-, hk⟩
    · exact hid
    · exact h.carries k d' hk
  · intro field hf k k' d₁ d₂ v v' hne hk hk' hv hv'
    rcases OrderedMap.get?_insert_eq_some hk with ⟨rfl, rfl⟩ | ⟨hki, ht⟩ <;>
      rcases OrderedMap.get?_insert_eq_some hk' with ⟨rfl, rfl⟩ | ⟨hki', ht'⟩
    · exact absurd rfl hne
    · -- the new document is the first of the two
      rw [Json.Value.same_comm]
      exact clash hf hki' ht' hv hv'
    · exact clash hf hki ht hv' hv
    · exact h.distinct field hf k k' d₁ d₂ v v' hne ht ht' hv hv'

/-- One write keeps a table lawful. What joins it has passed the check against all other documents,
and what leaves it can break nothing. -/
theorem Lawful.write {c : Collection} {t t' : Table} (hw : Write c t t') (h : Lawful c t) :
    Lawful c t' := by
  -- a write is a removal or an insertion that has been checked
  cases hw with
  | add carries _ unique => exact h.insert carries unique
  | @change id d next _ carries unique =>
    exact h.insert (Document.id_eq_ok.2 ⟨id.toHex, carries, ObjectId.parse?_toHex id⟩) unique
  | remove id =>
    refine h.mono fun k d hk => ?_
    rw [OrderedMap.get?_erase] at hk
    split at hk
    · cases hk
    · exact hk
  | keep p =>
    refine h.mono fun k d hk => ?_
    rw [OrderedMap.get?_filter, Option.filter_eq_some_iff] at hk
    exact hk.1

/-- Every table of a store that calls can lead to is lawful. -/
theorem lawful_after (calls : List Call) (c : Collection) :
    Lawful c ((empty.after calls).table c) := by
  refine after_keeps (P := Lawful) (fun _ _ _ => Lawful.write) calls (fun c => ?_) c
  cases c <;> exact Lawful.empty _

/-- **Names are unique**: after any calls on an empty store, in any order and with any arguments,
whether they succeed or fail, every document carries the id under which it is stored, and two
descriptors under different ids do not have equal names. -/
theorem names_unique_after (calls : List Call) :
    (∀ c k d, ((empty.after calls).table c).get? k = some d →
      ∃ s, d.get? "id" = some (.string s) ∧ ObjectId.parse? s = some k) ∧
    ∀ k k' d d' v v', k ≠ k' →
      (empty.after calls).valueDescriptors.get? k = some d →
      (empty.after calls).valueDescriptors.get? k' = some d' →
      d.get? "name" = some v → d'.get? "name" = some v' → v.same v' = false := by
  constructor
  · intro c k d hd
    exact Document.id_eq_ok.1 ((lawful_after calls c).carries k d hd)
  · exact (lawful_after calls .valueDescriptors).distinct "name" rfl

end Telemetry.Memory
