import Telemetry.Proofs.Catalogue
import Telemetry.Proofs.Memory.Writes

/-!
# Calls of a store that holds entities

Where a table is the table of some entities, each call has a plain meaning on these entities: a
query lists the entities with a property, a write puts or removes some of them. No lemma looks at
more than the one collection that is called.

* `find_list`, `count_list`, `insert_putAll`, `update_put`, `delete_remove`, `deleteAll_empty` —
  one equation for each call.
* `checkUnique_name`, `insert_descriptor` — a descriptor is refused exactly if another one has its
  name.
-/

namespace Telemetry

open Entity (toDocument)

/-- To insert what is there already changes nothing. -/
theorem OrderedMap.insert_of_get? {κ α : Type} [Ord κ] [Std.TransOrd κ] [Std.LawfulEqOrd κ]
    {m : OrderedMap κ α} {k : κ} {a : α} (h : m.get? k = some a) : m.insert k a = m := by
  refine ext_get? fun j => ?_
  rw [get?_insert]
  split
  · next hj =>
    obtain rfl := Std.LawfulEqCmp.eq_of_compare hj
    exact h.symm
  · rfl

theorem Entity.withId_id {α : Type} [Entity α] (a : α) :
    (toDocument a).withId (id a) = toDocument a :=
  OrderedMap.insert_of_get? (Entity.get?_id a)

namespace Memory

variable {α : Type} [Entity α] {m : Memory} {c : Collection} {s : Keyed α}

/-! ## Queries -/

section

variable {f : Filter} {p : α → Bool} (h : m.table c = s.table)
  (hf : ∀ a, f.holds (toDocument a) = p a)

include h hf

theorem select_list : m.select c f = (s.list.filter p).map toDocument := by
  rw [select, h, s.values_filter hf]

theorem find_list : m.find c f none = (s.list.filter p).map toDocument :=
  select_list h hf

/-- A limit takes the first entities, in the order of their ids. -/
theorem find_list_limit (limit : UInt64) :
    m.find c f (some limit) = ((s.list.filter p).take limit.toNat).map toDocument := by
  rw [find, select_list h hf, List.map_take]

theorem count_list : m.count c f = UInt64.ofNat (s.list.filter p).length := by
  rw [count, select_list h hf, List.length_map]

end

/-! ## New documents -/

/-- Entities with new ids pass the checks of a collection whose documents need not differ. -/
theorem stage_putAll (hc : c.uniqueField? = none) :
    ∀ (as : List α) (staged : Keyed α), (as.map Entity.id).Nodup →
      (∀ a ∈ as, s.get? (Entity.id a) = none) → (∀ a ∈ as, staged.get? (Entity.id a) = none) →
      stage c s.table staged.table (as.map toDocument) = .ok (staged.putAll as).table
  | [], _, _, _, _ => rfl
  | a :: as, staged, hn, hstored, hstaged => by
    rw [List.map_cons, List.nodup_cons] at hn
    have unique (t : Table) : checkUnique c t (Entity.id a) (toDocument a) = .ok () := by
      rw [checkUnique, hc]
    have one : stageOne c s.table staged.table (toDocument a) = .ok (staged.put a).table := by
      rw [stageOne, Entity.id_toDocument, Keyed.table_put]
      simp only [bind, Except.bind, Keyed.contains_table, hstored a (List.mem_cons_self ..),
        hstaged a (List.mem_cons_self ..), unique]
      rfl
    rw [List.map_cons, stage, one]
    -- the entities that are left are new also to what is staged now
    refine stage_putAll hc as (staged.put a) hn.2
      (fun b hb => hstored b (List.mem_cons_of_mem _ hb)) fun b hb => ?_
    have hne : Entity.id b ≠ Entity.id a := fun he => hn.1 (he ▸ List.mem_map_of_mem hb)
    rw [Keyed.get?_put, if_neg hne]
    exact hstaged b (List.mem_cons_of_mem _ hb)

/-- Writing what has been staged is putting the same entities. -/
theorem insertAll_putAll : ∀ (as : List α) (staged s' : Keyed α),
    s.table.insertAll staged.table = s'.table →
      s.table.insertAll (staged.putAll as).table = (s'.putAll as).table
  | [], _, _, h => h
  | a :: as, staged, s', h => by
    have first : s.table.insertAll (staged.put a).table = (s'.put a).table := by
      rw [Keyed.table_put, Keyed.table_put, OrderedMap.insertAll_insert, h]
    exact insertAll_putAll as (staged.put a) (s'.put a) first

/-- New entities with different ids are stored all together, where no field has to be unique. They
are then in the catalogue as if they had been put there one by one. -/
theorem insert_putAll (h : m.table c = s.table) (hc : c.uniqueField? = none) {as : List α}
    (hn : (as.map Entity.id).Nodup) (hnew : ∀ a ∈ as, s.get? (Entity.id a) = none) :
    m.insert c (as.map toDocument) = (.ok (), m.setTable c (s.putAll as).table) := by
  have hstage : stage c s.table ∅ (as.map toDocument) = .ok ((∅ : Keyed α).putAll as).table :=
    stage_putAll hc as ∅ hn hnew fun _ _ => rfl
  have hwrite : s.table.insertAll (∅ : Keyed α).table = s.table := OrderedMap.insertAll_empty _
  rw [insert, h, hstage]
  dsimp only
  rw [insertAll_putAll as ∅ s hwrite]

/-- One entity with a new id is put. -/
theorem insert_put (h : m.table c = s.table) (hc : c.uniqueField? = none) {a : α}
    (hnew : s.get? (Entity.id a) = none) :
    m.insert c [toDocument a] = (.ok (), m.setTable c (s.put a).table) := by
  have one : m.insert c ([a].map toDocument) = (.ok (), m.setTable c (s.putAll [a]).table) := by
    refine insert_putAll h hc (List.pairwise_singleton ..) fun b hb => ?_
    rw [List.mem_singleton.1 hb]
    exact hnew
  exact one

/-! ## Changes and removals -/

/-- An update of an id that no entity has is an error and changes nothing. -/
theorem update_missing (h : m.table c = s.table) {k : ObjectId} (hk : s.get? k = none)
    (u : Update) : m.update c k u = (.error .notFound, m) := by
  rw [update, h, Keyed.get?_table, hk]
  rfl

/-- An update that makes the document of another entity puts that entity. -/
theorem update_put (h : m.table c = s.table) {k : ObjectId} {a b : α} {u : Update}
    (hk : s.get? k = some a) (hb : Entity.id b = k)
    (hu : (u.apply (toDocument a)).withId k = toDocument b)
    (hunique : checkUnique c s.table k (toDocument b) = .ok ()) :
    m.update c k u = (.ok (), m.setTable c (s.put b).table) := by
  rw [update, h, Keyed.get?_table, hk]
  dsimp only [Option.map_some]
  rw [hu, hunique, Keyed.table_put, hb]

/-- A deletion removes the entity, or tells that it is missing. -/
theorem delete_remove (h : m.table c = s.table) (k : ObjectId) :
    m.delete c k
      = if (s.get? k).isSome then (.ok (), m.setTable c (s.remove k).table)
        else (.error .notFound, m) := by
  rw [delete, h, Keyed.contains_table, Keyed.table_remove]

/-- A deletion of everything leaves the empty catalogue and tells how many entities there were. -/
theorem deleteAll_empty (h : m.table c = s.table) :
    m.deleteAll c .all
      = (.ok (UInt64.ofNat s.list.length), m.setTable c (∅ : Keyed α).table) := by
  have none : s.table.filter (fun d => !Filter.all.holds d) = ∅ := by
    refine OrderedMap.ext_get? fun k => ?_
    rw [OrderedMap.get?_filter]
    cases s.table.get? k <;> rfl
  have size : s.table.size = s.list.length := by
    rw [Keyed.table, OrderedMap.size_map]
    exact (List.length_map ..).symm
  rw [deleteAll, h, none, size]
  rfl

/-! ## The names of descriptors -/

section

variable {s : Keyed ValueDescriptor} {id : ObjectId} {d : ValueDescriptor}

/-- A name is taken exactly if another descriptor has it. -/
theorem isTaken_name (name : String) :
    isTaken s.table id "name" (.string name) = true ↔ ∃ a ∈ s.list, a.id ≠ id ∧ a.name = name := by
  have field (a : ValueDescriptor) : a.toDocument.get? "name" = some (.string a.name) := by
    simp [ValueDescriptor.get?_toDocument, ValueDescriptor.fields, OrderedMap.lookup]
  rw [isTaken_iff]
  constructor
  · rintro ⟨k, doc, v, hk, hne, hv, hs⟩
    rw [Keyed.get?_table, Option.map_eq_some_iff] at hk
    obtain ⟨a, ha, rfl⟩ := hk
    obtain rfl := Keyed.id_of_get? ha
    have hfield := (field a).symm.trans hv
    obtain rfl := Option.some.inj hfield
    exact ⟨a, Keyed.mem_list.2 ha, hne, Json.Value.string.inj (Json.Value.same_string.1 hs)⟩
  · rintro ⟨a, ha, hne, rfl⟩
    refine ⟨a.id, a.toDocument, _, ?_, hne, field a, Json.Value.same_string.2 rfl⟩
    have hget : s.get? a.id = some a := Keyed.mem_list.1 ha
    rw [Keyed.get?_table, hget]
    rfl

/-- A descriptor is refused exactly if another one has its name. -/
theorem checkUnique_name :
    checkUnique .valueDescriptors s.table id d.toDocument
      = if ∃ a ∈ s.list, a.id ≠ id ∧ a.name = d.name then .error (.notUnique d.name)
        else .ok () := by
  have field : d.toDocument.get? "name" = some (.string d.name) := by
    simp [ValueDescriptor.get?_toDocument, ValueDescriptor.fields, OrderedMap.lookup]
  have hc : Collection.valueDescriptors.uniqueField? = some "name" := rfl
  rw [checkUnique, hc]
  dsimp only
  rw [field]
  dsimp only
  by_cases h : isTaken s.table id "name" (.string d.name) = true
  · rw [if_pos h, if_pos ((isTaken_name d.name).1 h)]
    rfl
  · rw [if_neg h, if_neg fun ht => h ((isTaken_name d.name).2 ht)]

/-- A descriptor with a new id is refused exactly if its name is there already. -/
theorem insert_descriptor (h : m.table .valueDescriptors = s.table) (hnew : s.get? d.id = none) :
    m.insert .valueDescriptors [d.toDocument]
      = if ∃ a ∈ s.list, a.name = d.name then (.error (.notUnique d.name), m)
        else (.ok (), m.setTable .valueDescriptors (s.put d).table) := by
  -- the check leaves out the document's own id, which is new here
  have others : (∃ a ∈ s.list, a.id ≠ d.id ∧ a.name = d.name) ↔ ∃ a ∈ s.list, a.name = d.name := by
    constructor
    · rintro ⟨a, ha, -, hn⟩
      exact ⟨a, ha, hn⟩
    · rintro ⟨a, ha, hn⟩
      refine ⟨a, ha, fun hid => ?_, hn⟩
      have hget : s.get? a.id = some a := Keyed.mem_list.1 ha
      rw [hid, hnew] at hget
      cases hget
  have hid : d.toDocument.id = .ok d.id := Entity.id_toDocument d
  have hstored : s.table.contains d.id = false := by
    rw [Keyed.contains_table, hnew]
    rfl
  -- a batch of one has nothing else in it to clash with
  have staged : checkUnique .valueDescriptors ∅ d.id d.toDocument = .ok () := by
    refine (checkUnique_name (s := ∅)).trans (if_neg ?_)
    rintro ⟨a, ha, -⟩
    cases ha
  have unique : checkUnique .valueDescriptors s.table d.id d.toDocument
      = if ∃ a ∈ s.list, a.name = d.name then .error (.notUnique d.name) else .ok () := by
    rw [checkUnique_name]
    simp only [others]
  rw [insert, h, stage, stageOne, hid]
  simp only [bind, Except.bind, hstored]
  by_cases ht : ∃ a ∈ s.list, a.name = d.name
  · rw [if_pos ht] at unique ⊢
    simp only [unique]
    rfl
  · rw [if_neg ht] at unique ⊢
    simp only [unique, staged]
    exact congrArg (fun t => (Except.ok (), m.setTable .valueDescriptors t)) (s.table_put d).symm

end

end Memory

end Telemetry
