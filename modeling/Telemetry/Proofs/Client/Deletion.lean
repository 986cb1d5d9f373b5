import Telemetry.Proofs.Client.Runs

/-!
# Deletion is permanent

An entity that has been removed does not come back, whatever is asked of the store afterwards. An
update that still carries its id finds nothing to change, and an addition replaces the id that its
argument carries by one that has just been taken. Ids are never taken twice, and that of the removed
entity has been taken: this is the invariant that carries it through every further run.

* `Absent.serve` — no request brings a removed entity back.
* `Absent.gone` — how the operations of the client see that it is absent.
* `removed_stays_gone` — both together, for every run after every removal.
-/

namespace Telemetry

open Client Program
open Telemetry.Action (Yields)

namespace Operation

/-- Asking for the entity of a kind by the text of its id. -/
def lookUp : Collection → String → Operation
  | .events, text => eventById text
  | .readings, text => readingById text
  | .valueDescriptors, text => valueDescriptorById text

/-- Deleting the entity of a kind by the text of its id. -/
def delete : Collection → String → Operation
  | .events, text => deleteEventById text
  | .readings, text => deleteReadingById text
  | .valueDescriptors, text => deleteValueDescriptorById text

/-- Whether an operation, if it succeeds, removes the entity of a kind under an id. It may do so by
the text of the id, in either case, or with all the others. -/
inductive Removes : Operation → Collection → ObjectId → Prop
  | delete {col : Collection} {text : String} {k : ObjectId}
    (parsed : ObjectId.parse? text = some k) : Removes (.delete col text) col k
  | scrubbedEvent {k : ObjectId} : Removes .scrubAllEvents .events k
  | scrubbedReading {k : ObjectId} : Removes .scrubAllEvents .readings k
  | scrubbedDescriptor {k : ObjectId} : Removes .scrubAllValueDescriptors .valueDescriptors k

theorem Removes.ne_close {op : Operation} {col : Collection} {k : ObjectId}
    (h : op.Removes col k) : op ≠ .close := by
  cases h with
  | delete _ => cases col <;> nofun
  | _ => nofun

/-- A removal needs a store. -/
theorem Removes.needsStore {op : Operation} {col : Collection} {k : ObjectId}
    (h : op.Removes col k) : op.action.NeedsStore := by
  have unknown : op.withoutStore? = none := by
    cases h with
    | @delete col text _ parsed =>
      have hex : ObjectId.isHex text = true := ObjectId.isHex_of_parse? parsed
      cases col <;> exact if_pos hex
    | _ => rfl
  have settles := op.settles h.ne_close
  rw [unknown] at settles
  exact settles

end Operation

/-- The worlds that further requests reach that do not close the store, if no id is taken twice.
What holds of all of them holds from now on. -/
inductive Continues (fresh : Nat → ObjectId) (w : World Memory) : World Memory → Prop where
  | start : Continues fresh w w
  | serve (q : Request) {w' : World Memory} (h : Continues fresh w w')
    (hop : q.operation ≠ .close) (distinct : Distinct fresh (q.serve fresh w').2.taken) :
    Continues fresh w (q.serve fresh w').2

/-! ## The invariant -/

/-- An open store without an entity whose id has once been taken. That the id has been taken is what
keeps it from coming back. -/
structure Absent (fresh : Nat → ObjectId) (col : Collection) (k : ObjectId) (w : World Memory) :
    Prop where
  isOpen : w.store.closed = false
  absent : ∃ c, Holds fresh c w ∧ ¬c.HasIn col k
  taken : ∃ i < w.taken, fresh i = k

section

variable {fresh : Nat → ObjectId} {col : Collection} {k : ObjectId} {w w' : World Memory}

/-- A request takes new ids only, so it does not bring the entity back. Updates do not either, for
they only change what is there. -/
theorem Absent.serve (h : Absent fresh col k w) {q : Request} (hop : q.operation ≠ .close)
    (hd : Distinct fresh (q.serve fresh w).2.taken) : Absent fresh col k (q.serve fresh w).2 := by
  obtain ⟨c, hc, absent⟩ := h.absent
  obtain ⟨i, hi, rfl⟩ := h.taken
  obtain ⟨v', n, outcome, hw', holds⟩ := hc.outcome h.isOpen q hop
  have later : w.taken ≤ (q.serve fresh w).2.taken := q.taken_le fresh w
  refine ⟨by rw [hw']; rfl, ⟨v'.store, holds, fun hk => ?_⟩, i, Nat.lt_of_lt_of_le hi later, rfl⟩
  rcases outcome.grows hk with hk | ⟨j, hle, hlt, he⟩
  · exact absent hk
  · -- the id would have been taken a second time
    rw [hw'] at hd later
    change w.taken ≤ v'.taken at later
    change w.taken ≤ j at hle
    have hij : j = i := hd j i hlt (Nat.lt_of_lt_of_le hi later) he
    omega

/-- What is absent stays absent, however many requests follow. -/
theorem Absent.continues (h : Absent fresh col k w) (hw : Continues fresh w w') :
    Absent fresh col k w' := by
  induction hw with
  | start => exact h
  | serve q _ hop distinct ih => exact ih.serve hop distinct

/-! ## Removals -/

theorem Keyed.not_has_remove {α : Type} [Entity α] (s : Keyed α) (k : ObjectId) :
    ¬(s.remove k).Has k := by
  rintro ⟨a, ha⟩
  rw [Keyed.get?_remove, if_pos rfl] at ha
  cases ha

/-- An operation that removes an entity and succeeds leaves a catalogue without it. An operation
that fails need not have found it. -/
theorem Outcome.removed {around : Surroundings} {v v' : World Catalogue} {op : Operation}
    {a : op.Answer} (h : Outcome around v op (.ok a) v') (hop : op.Removes col k) :
    ¬v'.store.HasIn col k := by
  -- what has been fetched by a text of the id has the id
  have fetched {α : Type} [Entity α] {s : Keyed α} {text : String} {b : α}
      (parsed : ObjectId.parse? text = some k) (stored : s.fetch text = .ok b) :
      Entity.id b = k := by
    obtain ⟨parsed', -⟩ := Keyed.fetch_eq_ok.1 stored
    exact Option.some.inj (parsed'.symm.trans parsed)
  cases hop with
  | delete parsed =>
    cases col with
    | events =>
      cases h with
      | answered query _ => cases query
      | eventRemoved stored =>
        obtain rfl := fetched parsed stored
        exact Keyed.not_has_remove _ _
    | readings =>
      cases h with
      | answered query _ => cases query
      | readingRemoved stored =>
        obtain rfl := fetched parsed stored
        exact Keyed.not_has_remove _ _
    | valueDescriptors =>
      cases h with
      | answered query _ => cases query
      | descriptorRemoved stored _ =>
        obtain rfl := fetched parsed stored
        exact Keyed.not_has_remove _ _
  | scrubbedEvent | scrubbedReading =>
    cases h with
    | answered query _ => cases query
    | eventsScrubbed => exact Keyed.not_has_empty k
  | scrubbedDescriptor =>
    cases h with
    | answered query _ => cases query
    | descriptorsScrubbed => exact Keyed.not_has_empty k

/-- What a removal has removed is absent after it. -/
theorem Holds.removed {c : Catalogue} (h : Holds fresh c w) {q : Request}
    (hq : q.operation.Removes col k) {a : q.operation.Answer} (hok : (q.serve fresh w).1 = .ok a)
    (stored : c.HasIn col k) :
    Absent fresh col k (q.serve fresh w).2 := by
  cases hc : w.store.closed with
  | true =>
    -- a closed store would have refused it
    have refused : (q.serve fresh w).1 = .error .noActiveClient :=
      hq.needsStore.run_closed ⟨q.now, fresh⟩ hc
    rw [refused] at hok
    cases hok
  | false =>
    obtain ⟨v', n, outcome, hw', holds⟩ := h.outcome hc q hq.ne_close
    obtain ⟨i, hi, he⟩ := h.2 k (Catalogue.has_iff_hasIn.2 ⟨col, stored⟩)
    rw [hok] at outcome
    refine ⟨by rw [hw']; rfl, ⟨_, holds, outcome.removed hq⟩, i, ?_, he⟩
    exact Nat.lt_of_lt_of_le hi (q.taken_le fresh w)

/-! ## What the client sees -/

/-- How the operations of the client see that there is no entity of a kind under an id. There are
five ways to meet an entity: to look it up, change it, delete it, list it, and load it with an
event. -/
structure Gone (fresh : Nat → ObjectId) (col : Collection) (k : ObjectId) (w : World Memory) :
    Prop where
  absent : (w.store.table col).get? k = none
  /-- it is not found by any text of its id -/
  lookUp : ∀ text now, ObjectId.parse? text = some k →
    (Request.serve fresh ⟨.lookUp col text, now⟩ w).1 = .error .notFound
  delete : ∀ text now, ObjectId.parse? text = some k →
    (Request.serve fresh ⟨.delete col text, now⟩ w).1 = .error .notFound
  event : col = .events → ∀ (e : Event) now, e.id = k →
    (Request.serve fresh ⟨.updateEvent e, now⟩ w).1 = .error .notFound
  reading : col = .readings → ∀ (r : Reading) now, r.id = k →
    (Request.serve fresh ⟨.updateReading r, now⟩ w).1 = .error .notFound
  descriptor : col = .valueDescriptors → ∀ (d : ValueDescriptor) now, d.id = k →
    (∀ a : ValueDescriptor, a.IsIn w → a.name ≠ d.name) →
      (Request.serve fresh ⟨.updateValueDescriptor d, now⟩ w).1 = .error .notFound
  /-- that a name belongs to another descriptor is found out first -/
  descriptorTaken : col = .valueDescriptors → ∀ (a d : ValueDescriptor) now, d.id = k →
    a.IsIn w → a.name = d.name →
      (Request.serve fresh ⟨.updateValueDescriptor d, now⟩ w).1 = .error (.notUnique d.name)
  /-- no answer shows it, nor does an event in an answer -/
  unlisted : ∀ q : Request, ∀ a, (q.serve fresh w).1 = .ok a → k ∉ (q.operation.shown a).ids col

theorem Keyed.fetch_absent {α : Type} [Entity α] {s : Keyed α} {text : String}
    (parsed : ObjectId.parse? text = some k) (h : ¬s.Has k) :
    s.fetch text = .error .notFound := by
  rw [fetch_of_parse parsed, get?_of_not_has h]
  rfl

/-- What has an id is in the catalogue under that id. So nothing that is absent can be shown,
whatever query is asked. -/
theorem Shown.From.hasIn {c : Catalogue} {s : Shown} (h : s.From c) (hk : k ∈ s.ids col) :
    c.HasIn col k := by
  cases col with
  | events =>
    obtain ⟨e, he, rfl⟩ := List.mem_map.1 hk
    obtain ⟨r, hr, rfl⟩ := h.events e he
    exact ⟨r, Keyed.mem_list.1 hr⟩
  | readings =>
    obtain ⟨r, hr, rfl⟩ := List.mem_map.1 hk
    exact ⟨r, Keyed.mem_list.1 (h.readings r hr)⟩
  | valueDescriptors =>
    obtain ⟨d, hd, rfl⟩ := List.mem_map.1 hk
    exact ⟨d, Keyed.mem_list.1 (h.descriptors d hd)⟩

/-- An answer shows only what is in the catalogue. -/
theorem Outcome.shown {around : Surroundings} {v v' : World Catalogue} {op : Operation}
    {a : op.Answer} (h : Outcome around v op (.ok a) v') (hk : k ∈ (op.shown a).ids col) :
    v.store.HasIn col k := by
  have nothing (h : k ∈ Shown.nothing.ids col) : v.store.HasIn col k := by
    cases col <;> cases h
  cases h with
  | answered _ shows => exact shows.hasIn hk
  | _ => exact nothing hk

section

variable {v : World Catalogue} (absent : ¬v.store.HasIn col k)

include absent

/-- Asking for an absent entity by its text answers that there is nothing, in whichever case the
text is written. -/
theorem lookUp_absent {around : Surroundings} {text : String}
    (parsed : ObjectId.parse? text = some k) :
    Yields around (Operation.lookUp col text).action v (.error .notFound) v := by
  cases col with
  | events =>
    have found : Yields around (eventById text) v _ v := eventById_yields text
    rwa [Keyed.fetch_absent parsed absent] at found
  | readings =>
    have found : Yields around (readingById text) v _ v := readingById_yields text
    rwa [Keyed.fetch_absent parsed absent] at found
  | valueDescriptors =>
    have found : Yields around (valueDescriptorById text) v _ v := valueDescriptorById_yields text
    rwa [Keyed.fetch_absent parsed absent] at found

/-- Deleting an absent entity answers the same, and changes nothing. -/
theorem delete_absent {around : Surroundings} {text : String}
    (parsed : ObjectId.parse? text = some k) :
    Yields around (Operation.delete col text).action v (.error .notFound) v := by
  cases col with
  | events => exact deleteEventById_error (Keyed.fetch_absent parsed absent)
  | readings => exact deleteReadingById_error (Keyed.fetch_absent parsed absent)
  | valueDescriptors => exact deleteValueDescriptorById_error (Keyed.fetch_absent parsed absent)

end

/-- In an open store without the entity no operation meets it: no list has it, no event loads it,
and looking it up, changing it or deleting it tells that it is not there. -/
theorem Absent.gone (h : Absent fresh col k w) : Gone fresh col k w := by
  obtain ⟨c, hc, absent⟩ := h.absent
  have answer {q : Request} {r : Except StoreError q.operation.Answer} {v : World Catalogue}
      (hy : Yields ⟨q.now, fresh⟩ q.operation.action ⟨c, w.taken⟩ r v) :
      (q.serve fresh w).1 = r := by
    obtain ⟨n, hserve⟩ := hc.serve_eq h.isOpen hy
    rw [hserve]
  refine ⟨?absent, ?lookUp, ?delete, ?event, ?reading, ?descriptor, ?descriptorTaken, ?unlisted⟩
  case absent =>
    exact Option.eq_none_iff_forall_ne_some.2 fun d hd => absent (hc.hasIn_iff.2 ⟨d, hd⟩)
  case lookUp =>
    intro text now parsed
    exact answer (q := ⟨.lookUp col text, now⟩) (lookUp_absent absent parsed)
  case delete =>
    intro text now parsed
    exact answer (q := ⟨.delete col text, now⟩) (delete_absent absent parsed)
  case event =>
    rintro rfl e now rfl
    exact answer (q := ⟨.updateEvent e, now⟩) (updateEvent_missing (Keyed.get?_of_not_has absent))
  case reading =>
    rintro rfl r now rfl
    exact answer (q := ⟨.updateReading r, now⟩)
      (updateReading_missing (Keyed.get?_of_not_has absent))
  case descriptor =>
    rintro rfl d now rfl unnamed
    have free : FreeFor c d := fun a ha hn => absurd hn (unnamed a (hc.descriptor_isIn.2 ha))
    exact answer (q := ⟨.updateValueDescriptor d, now⟩)
      (updateValueDescriptor_missing free (Keyed.get?_of_not_has absent))
  case descriptorTaken =>
    rintro rfl a d now rfl ha hn
    have ha := hc.descriptor_isIn.1 ha
    -- the other descriptor is there, so its id is not the one that is absent
    have hne : a.id ≠ d.id := fun he => absent ⟨a, he ▸ Keyed.mem_list.1 ha⟩
    exact answer (q := ⟨.updateValueDescriptor d, now⟩)
      (updateValueDescriptor_taken (Catalogue.named?_eq_some.2 ⟨ha, hn⟩) hne)
  case unlisted =>
    rintro ⟨op, now⟩ a hok hk
    by_cases hop : op = .close
    · subst hop
      cases col <;> cases hk
    · obtain ⟨v', n, outcome, -, -⟩ := hc.outcome h.isOpen ⟨op, now⟩ hop
      rw [hok] at outcome
      exact absent (outcome.shown hk)

/-- **Removed is gone**: after a removal that succeeds in a run, what has been removed is absent in
every further run, as long as no id is taken twice. No request that comes later finds it, lists it,
loads it with an event, changes it or deletes it once more. -/
theorem removed_stays_gone (h : Reached fresh w) {q : Request}
    (hq : q.operation.Removes col k) {a : q.operation.Answer}
    (hok : (q.serve fresh w).1 = .ok a) {d : Document}
    (stored : (w.store.table col).get? k = some d)
    (hw : Continues fresh (q.serve fresh w).2 w') : Gone fresh col k w' := by
  obtain ⟨c, hc⟩ := h.holds
  exact ((hc.removed hq hok (hc.hasIn_iff.2 ⟨d, stored⟩)).continues hw).gone

end

/-! ## A removal -/

/-- The reading of the first run is deleted. -/
def firstDeletion : Request := ⟨.deleteReadingById (ObjectId.numbered 0).toHex, 6⟩

/-- A reading that is added after this deletion and carries the id of the one that has been deleted.
It is given an id of its own. -/
def comeback : Request := ⟨.addReading { Reading.new "temperature" "72" with id := .numbered 0 }, 7⟩

/-- The request removes the reading that was there. -/
theorem firstDeletion_serve : ∃ c n,
    firstDeletion.serve .numbered firstWorld = (.ok (), World.storing ⟨c, 1⟩ n) ∧
      c.readings.get? (.numbered 1) = none ∧
      (firstWorld.store.table .readings).get? (.numbered 0) = some firstStored.toDocument := by
  obtain ⟨n, hw⟩ := firstWorld_standsFor
  have fetched : firstCatalogue.readings.fetch (ObjectId.numbered 0).toHex = .ok firstStored :=
    (Keyed.fetch_of_parse (ObjectId.parse?_toHex _)).trans rfl
  have deleted : Yields ⟨6, .numbered⟩ (deleteReadingById (ObjectId.numbered 0).toHex)
      ⟨firstCatalogue, 1⟩ (.ok ()) ⟨_, 1⟩ :=
    deleteReadingById_ok fetched
  obtain ⟨n', hserve⟩ := deleted n
  rw [← hw] at hserve
  exact ⟨_, n', hserve, rfl, by rw [hw]; rfl⟩

/-- The reading is gone, and the addition does not bring it back. -/
theorem removed_stays_gone_of_reading :
    Reached .numbered firstWorld ∧ firstDeletion.operation.Removes .readings (.numbered 0) ∧
      (firstDeletion.serve .numbered firstWorld).1 = .ok () ∧
      Gone .numbered .readings (.numbered 0)
        (comeback.serve .numbered (firstDeletion.serve .numbered firstWorld).2).2 := by
  obtain ⟨c, n, hserve, hnew, stored⟩ := firstDeletion_serve
  have removes : (Operation.delete .readings (ObjectId.numbered 0).toHex).Removes .readings
      (.numbered 0) := .delete (ObjectId.parse?_toHex _)
  have hok : (firstDeletion.serve .numbered firstWorld).1 = .ok () := congrArg Prod.fst hserve
  have added : Yields ⟨7, .numbered⟩ comeback.operation.action ⟨c, 1⟩ _ _ :=
    addReading_yields _ hnew
  obtain ⟨n', hserve'⟩ := added n
  refine ⟨reachable_firstWorld.reached, removes, hok,
    removed_stays_gone reachable_firstWorld.reached removes hok stored
      (.serve comeback .start nofun ?_)⟩
  rw [hserve, show comeback.serve .numbered _ = _ from hserve']
  exact distinct_numbered (n := 2) (by decide)

end Telemetry
