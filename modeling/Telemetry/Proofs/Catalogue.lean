import Telemetry.Memory
import Telemetry.Proofs.Filter

/-!
# Catalogues: the typed content of a store

A catalogue is what a store of the client means: three maps of entities under their ids, in which no
two descriptors have one name. `Catalogue.store` is the open store with exactly the documents of
these entities. The operations of the client are described by what they answer and leave in such a
store, so that no later proof looks at documents.

* `Keyed` — entities under their ids; `put`, `remove` and `keep` are the writes, and `table` is the
  table of their documents.
* `Keyed.values_filter` — a filter that tests a property of entities selects the entities with that
  property, in order.
-/

namespace Telemetry

/-- What has been looked up, or the error that there is nothing. The client asks for a single entity
in this way only. -/
def orNotFound {α : Type} : Option α → Except StoreError α
  | some a => .ok a
  | none => .error .notFound

/-- Entities, each under its id, in the order of the ids. That the key of an entity is its id is
part of it, so no lemma has to ask for this. -/
structure Keyed (α : Type) [Entity α] where
  byId : OrderedMap ObjectId α
  /-- every entity is found under its own id -/
  keyed : ∀ k a, byId.get? k = some a → Entity.id a = k

namespace Keyed

variable {α : Type} [Entity α]

open Entity (toDocument)

/-- The entity under an id. -/
def get? (s : Keyed α) (k : ObjectId) : Option α := s.byId.get? k

/-- The entities in the order of their ids. -/
def list (s : Keyed α) : List α := s.byId.values

/-- The table that holds the documents of the entities. Everything that is said of catalogues is
carried over to the store by this. -/
def table (s : Keyed α) : Table := s.byId.map toDocument

theorem ext_get? {s s' : Keyed α} (h : ∀ k, s.get? k = s'.get? k) : s = s' := by
  have hm : s.byId = s'.byId := OrderedMap.ext_get? h
  cases s; cases s'; cases hm; rfl

/-! ## Writing -/

/-- No entities. -/
def empty : Keyed α := ⟨∅, fun _ _ h => by cases h⟩

instance : EmptyCollection (Keyed α) := ⟨empty⟩

/-- Put an entity under its id, in place of the one that is there. It cannot be put under another
one. -/
def put (s : Keyed α) (a : α) : Keyed α where
  byId := s.byId.insert (Entity.id a) a
  keyed k b h := by
    rcases OrderedMap.get?_insert_eq_some h with ⟨rfl, rfl⟩ | ⟨-, h⟩
    · rfl
    · exact s.keyed k b h

/-- Take away the entity under an id, if there is one. -/
def remove (s : Keyed α) (k : ObjectId) : Keyed α where
  byId := s.byId.erase k
  keyed j a h := by
    rw [OrderedMap.get?_erase] at h
    split at h
    · cases h
    · exact s.keyed j a h

/-- Put entities one after another. -/
def putAll (s : Keyed α) (as : List α) : Keyed α := as.foldl put s

/-- Nothing is found among no entities; the lemmas after this one say what is found after each of
the writes. -/
@[simp] theorem get?_empty (k : ObjectId) : (∅ : Keyed α).get? k = none := rfl

/-- An entity that has been put is found under its id, and the others where they were. -/
theorem get?_put (s : Keyed α) (a : α) (k : ObjectId) :
    (s.put a).get? k = if k = Entity.id a then some a else s.get? k := by
  change (s.byId.insert _ _).get? k = _
  rw [OrderedMap.get?_insert]
  simp only [Std.LawfulEqCmp.compare_eq_iff_eq]
  rfl

/-- What has been taken away is not found, and the others where they were. -/
theorem get?_remove (s : Keyed α) (k j : ObjectId) :
    (s.remove k).get? j = if j = k then none else s.get? j := by
  change (s.byId.erase k).get? j = _
  rw [OrderedMap.get?_erase]
  simp only [Std.LawfulEqCmp.compare_eq_iff_eq]
  rfl

/-- Putting several entities changes nothing under other ids. -/
theorem get?_putAll_of_notMem : ∀ (as : List α) (s : Keyed α) {k : ObjectId},
    k ∉ as.map Entity.id → (s.putAll as).get? k = s.get? k
  | [], _, _, _ => rfl
  | a :: as, s, k, h => by
    rw [List.map_cons, List.mem_cons, not_or] at h
    change ((s.put a).putAll as).get? k = _
    rw [get?_putAll_of_notMem as _ h.2, get?_put, if_neg h.1]

/-- Each of several entities is found if no two have one id. Otherwise a later one would take the
place of an earlier one. -/
theorem get?_putAll_of_mem : ∀ {as : List α} (s : Keyed α), (as.map Entity.id).Nodup →
    ∀ a ∈ as, (s.putAll as).get? (Entity.id a) = some a
  | b :: as, s, hn, a, ha => by
    rw [List.map_cons, List.nodup_cons] at hn
    change ((s.put b).putAll as).get? _ = _
    rcases List.mem_cons.1 ha with rfl | ha
    · rw [get?_putAll_of_notMem as _ hn.1, get?_put, if_pos rfl]
    · exact get?_putAll_of_mem _ hn.2 a ha

/-! ## Listing -/

theorem id_of_get? {s : Keyed α} {k : ObjectId} {a : α} (h : s.get? k = some a) :
    Entity.id a = k :=
  s.keyed k a h

/-- An entity is listed if and only if it is found under its id. -/
theorem mem_list {s : Keyed α} {a : α} : a ∈ s.list ↔ s.get? (Entity.id a) = some a := by
  rw [list, OrderedMap.mem_values]
  constructor
  · rintro ⟨k, h⟩
    exact s.keyed k a h ▸ h
  · exact fun h => ⟨_, h⟩

/-- Whether there is an entity under an id. -/
def Has (s : Keyed α) (k : ObjectId) : Prop := ∃ a, s.get? k = some a

theorem get?_of_not_has {s : Keyed α} {k : ObjectId} (h : ¬s.Has k) : s.get? k = none :=
  Option.eq_none_iff_forall_ne_some.2 fun a ha => h ⟨a, ha⟩

/-- After putting an entity the ids are its own and those from before. -/
theorem has_put {s : Keyed α} {a : α} {k : ObjectId} (h : (s.put a).Has k) :
    k = Entity.id a ∨ s.Has k := by
  obtain ⟨b, hb⟩ := h
  rw [get?_put] at hb
  split at hb
  · next hk => exact .inl hk
  · exact .inr ⟨b, hb⟩

/-- After putting several the ids are theirs and those from before. -/
theorem has_putAll : ∀ {as : List α} {s : Keyed α} {k : ObjectId},
    (s.putAll as).Has k → k ∈ as.map Entity.id ∨ s.Has k
  | [], _, _, h => .inr h
  | a :: as, s, k, h => by
    rw [List.map_cons, List.mem_cons]
    rcases has_putAll (s := s.put a) h with h | h
    · exact .inl (.inr h)
    · exact (has_put h).imp_left .inl

/-- Taking away brings no id. -/
theorem has_remove {s : Keyed α} {k j : ObjectId} (h : (s.remove k).Has j) : s.Has j := by
  obtain ⟨a, ha⟩ := h
  rw [get?_remove] at ha
  split at ha
  · cases ha
  · exact ⟨a, ha⟩

theorem not_has_empty (k : ObjectId) : ¬(∅ : Keyed α).Has k := fun ⟨_, h⟩ => by cases h

theorem list_filter_id (s : Keyed α) (k : ObjectId) :
    s.list.filter (fun a => Entity.id a = k) = (s.get? k).toList :=
  OrderedMap.values_filter_key s.keyed k

/-! ## The table of the documents -/

@[simp] theorem get?_table (s : Keyed α) (k : ObjectId) :
    s.table.get? k = (s.get? k).map toDocument :=
  OrderedMap.get?_map ..

theorem get?_table_of {s : Keyed α} {k : ObjectId} {found : Option α} (h : s.get? k = found) :
    s.table.get? k = found.map toDocument := by
  rw [get?_table, h]

/-- Every document of the table is that of an entity. -/
theorem exists_of_table {s : Keyed α} {k : ObjectId} {d : Document}
    (h : s.table.get? k = some d) : ∃ a, s.get? k = some a := by
  rw [get?_table, Option.map_eq_some_iff] at h
  obtain ⟨a, ha, -⟩ := h
  exact ⟨a, ha⟩

/-- The entities are those whose documents are in the table. -/
theorem get?_table_eq_some {s : Keyed α} {a : α} :
    s.table.get? (Entity.id a) = some (toDocument a) ↔ a ∈ s.list := by
  rw [mem_list, get?_table, Option.map_eq_some_iff]
  constructor
  · rintro ⟨b, hb, hdoc⟩
    rwa [Entity.toDocument_injective hdoc] at hb
  · intro h
    exact ⟨a, h, rfl⟩

theorem table_put (s : Keyed α) (a : α) :
    (s.put a).table = s.table.insert (Entity.id a) (toDocument a) :=
  OrderedMap.map_insert ..

theorem table_remove (s : Keyed α) (k : ObjectId) : (s.remove k).table = s.table.erase k :=
  OrderedMap.map_erase ..

@[simp] theorem contains_table (s : Keyed α) (k : ObjectId) :
    s.table.contains k = (s.get? k).isSome :=
  OrderedMap.contains_map ..

/-- A filter that tests a property of entities selects the entities with that property. -/
theorem values_filter (s : Keyed α) {f : Filter} {p : α → Bool}
    (h : ∀ a, f.holds (toDocument a) = p a) :
    s.table.values.filter f.holds = (s.list.filter p).map toDocument := by
  rw [table, OrderedMap.values_map, List.filter_map]
  exact congrArg _ (List.filter_congr fun a _ => h a)

/-! ## Ids given as text -/

/-- The entity asked for by the text of its id. The text may be malformed, or there may be nothing
under the id. -/
def fetch (s : Keyed α) (text : String) : Except StoreError α := do
  let k ← parseId text
  orNotFound (s.get? k)

/-- A text that is an id asks for what is under the id. -/
theorem fetch_of_parse {s : Keyed α} {text : String} {k : ObjectId}
    (h : ObjectId.parse? text = some k) : s.fetch text = orNotFound (s.get? k) := by
  rw [fetch, parseId, h]
  rfl

/-- A text that is no id is refused, whatever is stored. -/
theorem fetch_of_malformed {s : Keyed α} {text : String} (h : ObjectId.parse? text = none) :
    s.fetch text = .error (.invalidIdentifier text) := by
  rw [fetch, parseId, h]
  rfl

/-- An entity is fetched by the texts of its id. There is one for each way of writing its letters,
as capitals or not. -/
theorem fetch_eq_ok {s : Keyed α} {text : String} {a : α} :
    s.fetch text = .ok a ↔ ObjectId.parse? text = some (Entity.id a) ∧ a ∈ s.list := by
  rw [mem_list]
  rcases hp : ObjectId.parse? text with _ | k
  · simp [fetch_of_malformed hp]
  · rw [fetch_of_parse hp]
    rcases hk : s.get? k with _ | b
    · constructor
      · intro h
        cases h
      · rintro ⟨h, ha⟩
        rw [← Option.some.inj h, hk] at ha
        cases ha
    · -- what is stored under an id carries it, so the two ways of saying it agree
      obtain rfl := id_of_get? hk
      constructor
      · intro h
        obtain rfl := Except.ok.inj h
        exact ⟨rfl, hk⟩
      · rintro ⟨h, ha⟩
        rw [← Option.some.inj h, hk] at ha
        exact congrArg orNotFound ha

end Keyed

/-! ## Catalogues -/

/-- No two descriptors have one name. This is the invariant that the store keeps for descriptors,
and it is what lets a name stand for one of them. -/
def NamesDiffer (s : Keyed ValueDescriptor) : Prop :=
  ∀ a ∈ s.list, ∀ b ∈ s.list, a.name = b.name → a = b

/-- A descriptor may be put if nobody else has its name. It may have had another name before, and
that name is free afterwards. -/
theorem NamesDiffer.put {s : Keyed ValueDescriptor} (h : NamesDiffer s) {d : ValueDescriptor}
    (hd : ∀ a ∈ s.list, a.name = d.name → a.id = d.id) : NamesDiffer (s.put d) := by
  have kept {a : ValueDescriptor} (ha : a ∈ (s.put d).list) : a = d ∨ a.id ≠ d.id ∧ a ∈ s.list := by
    rw [Keyed.mem_list, Keyed.get?_put] at ha
    split at ha
    · exact .inl (Option.some.inj ha).symm
    · next hne => exact .inr ⟨hne, Keyed.mem_list.2 ha⟩
  intro a ha b hb hab
  -- an old descriptor with the name of the new one would have its id
  rcases kept ha with rfl | ⟨hna, ha'⟩ <;> rcases kept hb with rfl | ⟨hnb, hb'⟩
  · rfl
  · exact absurd (hd b hb' hab.symm) hnb
  · exact absurd (hd a ha' hab) hna
  · exact h a ha' b hb' hab

/-- Taking a descriptor away leaves the others with different names. -/
theorem NamesDiffer.remove {s : Keyed ValueDescriptor} (h : NamesDiffer s) (k : ObjectId) :
    NamesDiffer (s.remove k) := by
  have kept {a : ValueDescriptor} (ha : a ∈ (s.remove k).list) : a ∈ s.list := by
    rw [Keyed.mem_list, Keyed.get?_remove] at ha
    split at ha
    · cases ha
    · exact Keyed.mem_list.2 ha
  exact fun a ha b hb => h a (kept ha) b (kept hb)

/-- No descriptors have no names in common. -/
theorem NamesDiffer.empty : NamesDiffer ∅ := fun _ h => by cases h

/-- The entities of a store. The names are part of it, so that no lemma has to ask for them again.
-/
structure Catalogue where
  events : Keyed EventRecord
  readings : Keyed Reading
  descriptors : Keyed ValueDescriptor
  names : NamesDiffer descriptors

namespace Catalogue

/-- The catalogue without entities. -/
def empty : Catalogue := ⟨∅, ∅, ∅, .empty⟩

/-- The open store that holds the documents of a catalogue and has taken up some calls. A catalogue
says nothing of calls, so their number is given beside it. -/
def store (c : Catalogue) (calls : Nat) : Memory :=
  ⟨c.events.table, c.readings.table, c.descriptors.table, false, calls⟩

/-- An event of the catalogue with those of its readings that are in the catalogue. The record may
name others, which are passed over. -/
def event (c : Catalogue) (e : EventRecord) : Event :=
  e.toEvent (e.readings.filterMap c.readings.get?)

/-! ## Writing -/

/-- Put an event; its readings are not touched. -/
def putEvent (c : Catalogue) (e : EventRecord) : Catalogue := { c with events := c.events.put e }

/-- Take an event away; its readings stay. -/
def removeEvent (c : Catalogue) (k : ObjectId) : Catalogue :=
  { c with events := c.events.remove k }

/-- Put several readings one after another. -/
def putReadings (c : Catalogue) (rs : List Reading) : Catalogue :=
  { c with readings := c.readings.putAll rs }

/-- Take a reading away; events go on naming it, and are loaded without it from then on. -/
def removeReading (c : Catalogue) (k : ObjectId) : Catalogue :=
  { c with readings := c.readings.remove k }

/-- Take all readings away. -/
def removeReadings (c : Catalogue) : Catalogue := { c with readings := ∅ }

/-- Take all events away. -/
def removeEvents (c : Catalogue) : Catalogue := { c with events := ∅ }

/-- Put a descriptor whose name no other one has. The condition is asked for, as the names would not
differ without it. -/
def putDescriptor (c : Catalogue) (d : ValueDescriptor)
    (h : ∀ a ∈ c.descriptors.list, a.name = d.name → a.id = d.id) : Catalogue :=
  { c with descriptors := c.descriptors.put d, names := c.names.put h }

/-- Take a descriptor away, which frees its name. -/
def removeDescriptor (c : Catalogue) (k : ObjectId) : Catalogue :=
  { c with descriptors := c.descriptors.remove k, names := c.names.remove k }

/-- Take all descriptors away. -/
def removeDescriptors (c : Catalogue) : Catalogue :=
  { c with descriptors := ∅, names := .empty }

/-! ## Descriptors by name -/

/-- The descriptor of a name. There is at most one, so the first that is listed is the only one. -/
def named? (c : Catalogue) (name : String) : Option ValueDescriptor :=
  c.descriptors.list.find? fun d => d.name = name

/-- A name stands for a descriptor if and only if the descriptor is there and has it. There cannot
be two. -/
theorem named?_eq_some {c : Catalogue} {name : String} {d : ValueDescriptor} :
    c.named? name = some d ↔ d ∈ c.descriptors.list ∧ d.name = name := by
  have found {d' : ValueDescriptor} (h : c.named? name = some d') :
      d' ∈ c.descriptors.list ∧ d'.name = name :=
    ⟨List.mem_of_find?_eq_some h, by simpa using List.find?_some h⟩
  constructor
  · exact found
  · rintro ⟨hd, hn⟩
    rcases hf : c.named? name with _ | d'
    · exact absurd hn (by simpa using List.find?_eq_none.1 hf d hd)
    · obtain ⟨hd', hn'⟩ := found hf
      rw [c.names d' hd' d hd (hn'.trans hn.symm)]

/-- A name stands for nothing if and only if no descriptor has it. -/
theorem named?_eq_none {c : Catalogue} {name : String} :
    c.named? name = none ↔ ∀ d ∈ c.descriptors.list, d.name ≠ name := by
  simp only [named?, List.find?_eq_none, decide_eq_true_eq, ne_eq]

/-- Selecting by the name leaves the descriptor of the name: there is at most one, so the order of
the catalogue does not matter. -/
theorem filter_name (c : Catalogue) (name : String) :
    c.descriptors.list.filter (fun d => d.name = name) = (c.named? name).toList := by
  rcases h : c.named? name with _ | d
  · simpa [List.filter_eq_nil_iff] using named?_eq_none.1 h
  · obtain ⟨hd, hn⟩ := named?_eq_some.1 h
    -- among the descriptors having the name and having the id of `d` are the same
    have same : ∀ a ∈ c.descriptors.list, decide (a.name = name) = decide (a.id = d.id) := by
      intro a ha
      refine decide_eq_decide.2 ⟨fun hname => ?_, fun hid => ?_⟩
      · rw [c.names a ha d hd (hname.trans hn.symm)]
      · have had : some a = some d := by
          rw [← Keyed.mem_list.1 ha, ← Keyed.mem_list.1 hd]
          exact congrArg _ hid
        rw [Option.some.inj had, hn]
    have hget : c.descriptors.get? d.id = some d := Keyed.mem_list.1 hd
    rw [List.filter_congr same]
    exact (c.descriptors.list_filter_id d.id).trans (congrArg _ hget)

end Catalogue

end Telemetry
