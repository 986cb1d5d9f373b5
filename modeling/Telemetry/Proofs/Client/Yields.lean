import Telemetry.Client.ValueDescriptors
import Telemetry.Proofs.Client.Loading
import Telemetry.Proofs.Memory.Catalogue

/-!
# What actions do to catalogues

`Action.Yields around a v r v'` says that an action, run in any open store of the catalogue of `v`,
ends with `r` in a store of the catalogue of `v'`. How many calls the store has taken up is left
open on both sides, so the judgement speaks of entities and of taken ids only. A world of a
catalogue stands for a world of the store.

* `Yields.bind`, `Yields.stop` — actions in a row.
* `Yields.find`, `Yields.findOne`, `Yields.findLimit`, `Yields.count`, `Yields.loadEvents` — queries
  leave the catalogue and answer with its entities.
* `Yields.insert`, `Yields.update`, `Yields.delete`, `Yields.deleteAll` — a write is one equation
  about the store.
-/

namespace Telemetry

open Program
open Entity (toDocument)

/-- A world of the store that a world of a catalogue stands for. The ids that have been taken are
the same on both sides. -/
def World.storing (v : World Catalogue) (calls : Nat) : World Memory :=
  ⟨v.store.store calls, v.taken⟩

namespace Action

/-- In given surroundings an action, run on the store of a catalogue, ends with a result and on the
store of another one. The number of calls is left open on both sides. -/
def Yields {α : Type} (around : Surroundings) (a : Action α) (v : World Catalogue)
    (r : Except StoreError α) (v' : World Catalogue) : Prop :=
  ∀ n, ∃ n', exec Memory.backend around a (v.storing n) = (r, v'.storing n')

namespace Yields

variable {α β : Type} {around : Surroundings} {v v' v'' : World Catalogue}

/-! ## Actions in a row

An operation is taken apart into actions, and the judgement on it is put together from those on the
parts. What has no call is the same over every store. -/

theorem pure (x : α) : Yields around (Pure.pure x) v (.ok x) v := fun n => ⟨n, rfl⟩

theorem throw (e : StoreError) : Yields around (MonadExcept.throw e : Action α) v (.error e) v :=
  fun n => ⟨n, rfl⟩

theorem ofExcept (r : Except StoreError α) : Yields around (Action.ofExcept r) v r v :=
  fun n => ⟨n, rfl⟩

theorem clock : Yields around (lift Program.clock) v (.ok around.now) v := fun n => ⟨n, rfl⟩

/-- An id is the next of the surroundings, and is then taken. -/
theorem takeId :
    Yields around (lift Program.takeId) v (.ok (around.fresh v.taken))
      { v with taken := v.taken + 1 } :=
  fun n => ⟨n, rfl⟩

/-- Two actions in a row: the second one starts where the first one ends. The judgement on an
operation is put together along its program with this. -/
theorem bind {a : Action α} {f : α → Action β} {x : α} {r : Except StoreError β}
    (ha : Yields around a v (.ok x) v') (hf : Yields around (f x) v' r v'') :
    Yields around (a >>= f) v r v'' := by
  intro n
  obtain ⟨n', ha⟩ := ha n
  obtain ⟨n'', hf⟩ := hf n'
  refine ⟨n'', ?_⟩
  rw [exec_bind, ha]
  exact hf

/-- After an error the second action is not run. -/
theorem stop {a : Action α} {e : StoreError} (ha : Yields around a v (.error e) v')
    (f : α → Action β) : Yields around (a >>= f) v (.error e) v' := by
  intro n
  obtain ⟨n', ha⟩ := ha n
  refine ⟨n', ?_⟩
  rw [exec_bind, ha]

/-- Going on with the result, be it an error or not. The judgements on both cases have to be known.
-/
theorem handle {a : Action α} {f : Except StoreError α → Program (Except StoreError β)}
    {r : Except StoreError α} {r' : Except StoreError β} (ha : Yields around a v r v')
    (hf : Yields around (ExceptT.mk (f r)) v' r' v'') :
    Yields around (ExceptT.mk (a.run.bind f)) v r' v'' := by
  intro n
  obtain ⟨n', ha⟩ := ha n
  obtain ⟨n'', hf⟩ := hf n'
  refine ⟨n'', ?_⟩
  have hrun : a.run.run Memory.backend around (v.storing n) = (r, v'.storing n') := ha
  change (a.run.bind f).run Memory.backend around (v.storing n) = _
  rw [run_bind, hrun]
  exact hf

theorem adapt {a : Action α} {r : Except StoreError α} (ha : Yields around a v r v')
    (f : StoreError → StoreError) : Yields around (ExceptT.adapt f a) v (r.mapError f) v' :=
  handle (f := fun r => .done (r.mapError f)) ha fun n => ⟨n, rfl⟩

theorem ifFound_some {a : Action α} {x : α} (ha : Yields around a v (.ok x) v') :
    Yields around (Client.ifFound a) v (.ok (some x)) v' :=
  handle ha fun n => ⟨n, rfl⟩

theorem ifFound_none {a : Action α} (ha : Yields around a v (.error .notFound) v') :
    Yields around (Client.ifFound a) v (.ok none) v' :=
  handle ha fun n => ⟨n, rfl⟩

/-! ## Calls

A call is answered by the store that a catalogue stands for. The lemmas say what the answer is in
terms of the catalogue, so that tables do not occur in the proofs about operations. -/

/-- A call does what the store does with it. -/
theorem call {c : Call} {r : Except StoreError c.Answer} {c' : Catalogue}
    (h : ∀ n, Memory.answer c (v.store.store n) = (r, c'.store (n + 1))) :
    Yields around (Action.call c) v r ⟨c', v.taken⟩ := by
  intro n
  refine ⟨n + 1, ?_⟩
  refine (exec_call ..).trans ?_
  change ((Memory.answer c (v.store.store n)).1,
    { v.storing n with store := (Memory.answer c (v.store.store n)).2 }) = _
  rw [h]
  rfl

theorem ping : Yields around (Action.call .ping) v (.ok ()) v := .call fun _ => rfl

section

variable {c : Collection} {c' : Catalogue} {r : Except StoreError Unit}

theorem insert {docs : List Document}
    (h : ∀ n, (v.store.store n).insert c docs = (r, c'.store n)) :
    Yields around (Action.call (.insert c docs)) v r ⟨c', v.taken⟩ :=
  .call fun n => h (n + 1)

theorem update {id : ObjectId} {u : Update}
    (h : ∀ n, (v.store.store n).update c id u = (r, c'.store n)) :
    Yields around (Action.call (.update c id u)) v r ⟨c', v.taken⟩ :=
  .call fun n => h (n + 1)

theorem delete {id : ObjectId} (h : ∀ n, (v.store.store n).delete c id = (r, c'.store n)) :
    Yields around (Action.call (.delete c id)) v r ⟨c', v.taken⟩ :=
  .call fun n => h (n + 1)

/-- A call that deletes the documents of a filter does what the store does with them. -/
theorem deleteAll {f : Filter} {r : Except StoreError UInt64}
    (h : ∀ n, (v.store.store n).deleteAll c f = (r, c'.store n)) :
    Yields around (Action.call (.deleteAll c f)) v r ⟨c', v.taken⟩ :=
  .call fun n => h (n + 1)

end

/-- A query leaves the catalogue as it is. -/
theorem documents {c : Collection} {f : Filter} {limit : Option UInt64} {docs : List Document}
    (h : ∀ n, (v.store.store n).find c f limit = docs) :
    Yields around (Action.call (.find c f limit)) v (.ok docs) v :=
  .call fun n => by
    change (Except.ok ((v.store.store (n + 1)).find c f limit), v.store.store (n + 1)) = _
    rw [h]

section

variable [Entity α] {s : Keyed α} {c : Collection} {f : Filter} {p : α → Bool}
  (hs : ∀ n, (v.store.store n).table c = s.table) (hf : ∀ a, f.holds (toDocument a) = p a)

include hs hf

theorem find :
    Yields around (Action.call (.find c f none)) v (.ok ((s.list.filter p).map toDocument)) v :=
  documents fun n => Memory.find_list (hs n) hf

theorem count :
    Yields around (Action.call (.count c f)) v (.ok (UInt64.ofNat (s.list.filter p).length)) v :=
  .call fun n => by
    change (Except.ok ((v.store.store (n + 1)).count c f), v.store.store (n + 1)) = _
    rw [Memory.count_list (hs (n + 1)) hf]

/-- The first entity with the property is found. -/
theorem findOne :
    Yields around (Action.findOne c f) v
      (orNotFound ((s.list.filter p).head?.map toDocument)) v := by
  have first : Yields around (Action.call (.find c f (some 1))) v
      (.ok (((s.list.filter p).take 1).map toDocument)) v :=
    documents fun n => Memory.find_list_limit (hs n) hf 1
  refine bind first ?_
  rcases s.list.filter p with _ | ⟨a, _⟩
  · exact .throw _
  · exact .pure _

/-- A limit of zero is no special case: the first zero entities are none, and the store is not
changed by asking. -/
theorem findLimit (limit : UInt64) :
    Yields around (Action.findLimit c f limit) v
      (.ok (((s.list.filter p).take limit.toNat).map toDocument)) v := by
  unfold Action.findLimit
  split
  · next h =>
    subst h
    exact .pure _
  · exact documents fun n => Memory.find_list_limit (hs n) hf limit

end

section

variable [Entity α] {s : Keyed α} {c : Collection}
  (hs : ∀ n, (v.store.store n).table c = s.table)

include hs

/-- All documents are those of all entities. -/
theorem findAll :
    Yields around (Action.call (.find c .all none)) v (.ok (s.list.map toDocument)) v := by
  have found : Yields around (Action.call (.find c .all none)) v
      (.ok ((s.list.filter fun _ => true).map toDocument)) v :=
    find hs fun a => Filter.holds_all (toDocument a)
  rwa [List.filter_true] at found

/-- The count of all documents is that of all entities. -/
theorem countAll :
    Yields around (Action.call (.count c .all)) v (.ok (UInt64.ofNat s.list.length)) v := by
  have counted : Yields around (Action.call (.count c .all)) v
      (.ok (UInt64.ofNat (s.list.filter fun _ => true).length)) v :=
    count hs fun a => Filter.holds_all (toDocument a)
  rwa [List.filter_true] at counted

end

/-! ## Reading documents

The documents of a catalogue are those of its entities, so they can always be read. -/

section

variable [Entity α]

theorem decode (a : α) :
    Yields around (Action.ofExcept ((toDocument a).decode Entity.decoder)) v (.ok a) v := by
  rw [Entity.decode_toDocument]
  exact ofExcept _

theorem decodeAll (as : List α) :
    Yields around (Action.ofExcept (Document.decodeAll Entity.decoder (as.map toDocument))) v
      (.ok as) v := by
  rw [Entity.decodeAll_map]
  exact ofExcept _

end

/-! ## Ids given as text -/

theorem malformedId {text : String} (h : ObjectId.parse? text = none) (f : ObjectId → Action β) :
    Yields around (Action.ofExcept (parseId text) >>= f) v (.error (.invalidIdentifier text))
      v := by
  rw [parseId, h]
  exact (ofExcept _).stop f

theorem wellFormedId {text : String} {k : ObjectId} (h : ObjectId.parse? text = some k)
    {f : ObjectId → Action β} {r : Except StoreError β} (hf : Yields around (f k) v r v') :
    Yields around (Action.ofExcept (parseId text) >>= f) v r v' := by
  rw [parseId, h]
  exact (ofExcept _).bind hf

section

variable [Entity α] {s : Keyed α} {c : Collection}
  (hs : ∀ n, (v.store.store n).table c = s.table)

include hs

/-- The document under an id is found by its id field. -/
theorem findOne_byId (k : ObjectId) :
    Yields around (Action.findOne c (Client.byId k)) v
      (orNotFound ((s.get? k).map toDocument)) v := by
  have found : Yields around (Action.findOne c (Client.byId k)) v
      (orNotFound ((s.list.filter fun a => Entity.id a = k).head?.map toDocument)) v :=
    findOne hs fun a => Filter.holds_byId (Entity.get?_id a) k
  rw [s.list_filter_id] at found
  cases h : s.get? k <;> rw [h] at found <;> exact found

/-- Going on with the document under an id that is given as text. There are three cases: the text is
no id, nothing is there, or the document is that of an entity. -/
theorem fetch (text : String) {f : Document → Action β} {g : α → β}
    (hf : ∀ a, Yields around (f (toDocument a)) v (.ok (g a)) v) :
    Yields around
      (Action.ofExcept (parseId text) >>= fun k => Action.findOne c (Client.byId k) >>= f) v
      ((s.fetch text).map g) v := by
  rcases hp : ObjectId.parse? text with _ | k
  · rw [Keyed.fetch_of_malformed hp]
    exact malformedId hp _
  · rw [Keyed.fetch_of_parse hp]
    have found : Yields around (Action.findOne c (Client.byId k)) v
        (orNotFound ((s.get? k).map toDocument)) v := findOne_byId hs k
    refine wellFormedId hp ?_
    cases hk : s.get? k with
    | none =>
      rw [hk] at found
      exact found.stop f
    | some a =>
      rw [hk] at found
      exact found.bind (hf a)

/-- A deletion by text is refused for the same reason as a look-up. -/
theorem deleteById_error {text : String} {e : StoreError} (h : s.fetch text = .error e) :
    Yields around (Action.deleteById c text) v (.error e) v := by
  rcases hp : ObjectId.parse? text with _ | k
  · rw [Keyed.fetch_of_malformed hp] at h
    obtain rfl := Except.error.inj h
    exact malformedId hp _
  · rw [Keyed.fetch_of_parse hp] at h
    refine wellFormedId hp (.delete fun n => ?_)
    rw [Memory.delete_remove (hs n)]
    cases hk : s.get? k with
    | some a =>
      rw [hk] at h
      cases h
    | none =>
      rw [hk] at h
      obtain rfl := Except.error.inj h
      rfl

/-- A deletion by text removes the entity. -/
theorem deleteById_ok {text : String} {a : α} {c' : Catalogue} (h : s.fetch text = .ok a)
    (hc : ∀ n, (v.store.store n).setTable c (s.remove (Entity.id a)).table = c'.store n) :
    Yields around (Action.deleteById c text) v (.ok ()) ⟨c', v.taken⟩ := by
  obtain ⟨hp, ha⟩ := Keyed.fetch_eq_ok.1 h
  refine wellFormedId hp (.delete fun n => ?_)
  rw [Memory.delete_remove (hs n), Keyed.mem_list.1 ha, hc]
  rfl

end

/-! ## Loading -/

/-- The table of readings is that of the catalogue. -/
theorem storesReadings (c : Catalogue) (n : Nat) :
    StoresReadings ((c.store n).table .readings) c.readings.byId := by
  change List.Forall₂ StoresReading (c.readings.byId.entries.map _) _
  rw [List.forall₂_map_left_iff, List.forall₂_same]
  intro e he
  have hid : e.2.id = e.1 := c.readings.keyed e.1 e.2 (OrderedMap.mem_entries.1 he)
  refine ⟨rfl, ?_, hid, Entity.decode_toDocument e.2⟩
  rw [← hid]
  exact Entity.get?_id e.2

/-- Events are loaded with those of their readings that are in the catalogue. -/
theorem loadEvents (records : List EventRecord) :
    Yields around (Client.loadEvents (records.map toDocument)) v
      (.ok (records.map v.store.event)) v := by
  intro n
  exact ⟨n + _, exec_loadEvents around (w := v.storing n) rfl (storesReadings v.store n)
    (Entity.decodeAll_map records)⟩

end Yields

end Action

end Telemetry
