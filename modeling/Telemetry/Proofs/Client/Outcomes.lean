import Telemetry.Proofs.Client.Foreseen
import Telemetry.Proofs.Client.Operations
import Telemetry.Proofs.Memory.Batches

/-!
# All that an operation can do

On an open store an operation answers with entities that are there, is refused, or makes the one
change that its name promises. `Outcome` lists these ends, each with what has been checked before
it. Whatever holds of all operations is then a case analysis over some outcomes, and no longer one
over some forty programs.

The ids that are taken need not be new. If one is in use the store refuses the document that would
get it, which an addition reports; only the readings of an event may stay behind.

* `Operation.outcome` — in the open store of a catalogue every operation but closing has an
  outcome.
* `Outcome.grows` — an entity that is there afterwards was there before, or has an id that the
  operation has taken.
* `Outcome.foreseen` — if the ids are new, no outcome is an unexpected error.
-/

namespace Telemetry

open Client Program
open Telemetry.Action (Yields)

/-! ## What answers show

Whether an answer shows an entity is asked twice: what is not in the store must not be shown, and
what is shown must be as it is stored. -/

/-- What an answer shows of the store: entities of the three kinds. Counts and ids show none. Two
statements about answers use this, that nothing absent is shown and that nothing is shown that is
not there. -/
structure Shown where
  events : List Event
  readings : List Reading
  descriptors : List ValueDescriptor

namespace Shown

/-- An answer that shows no entity. -/
def nothing : Shown := ⟨[], [], []⟩

/-- Events are shown with their readings. -/
def ofEvents (es : List Event) : Shown := ⟨es, es.flatMap Event.readings, []⟩

/-- An answer that shows readings. -/
def ofReadings (rs : List Reading) : Shown := ⟨[], rs, []⟩

/-- An answer that shows descriptors. -/
def ofDescriptors (ds : List ValueDescriptor) : Shown := ⟨[], [], ds⟩

/-- The ids of the shown entities of one kind. -/
def ids (s : Shown) : Collection → List ObjectId
  | .events => s.events.map Event.id
  | .readings => s.readings.map Reading.id
  | .valueDescriptors => s.descriptors.map ValueDescriptor.id

/-- Everything that is shown is in the catalogue, as it stands there. -/
structure From (c : Catalogue) (s : Shown) : Prop where
  events : ∀ e ∈ s.events, ∃ r ∈ c.events.list, e = c.event r
  readings : ∀ r ∈ s.readings, r ∈ c.readings.list
  descriptors : ∀ d ∈ s.descriptors, d ∈ c.descriptors.list

namespace From

variable {c : Catalogue}

theorem nothing : From c .nothing where
  events _ h := by cases h
  readings _ h := by cases h
  descriptors _ h := by cases h

/-- Events of the catalogue show its events, and no readings but its own. -/
theorem ofEvents {es : List EventRecord} (h : es ⊆ c.events.list) :
    From c (.ofEvents (es.map c.event)) where
  events e he := by
    obtain ⟨r, hr, rfl⟩ := List.mem_map.1 he
    exact ⟨r, h hr, rfl⟩
  readings r hr := by
    -- a loaded event has only readings that have been looked up
    obtain ⟨e, he, hr⟩ := List.mem_flatMap.1 hr
    obtain ⟨record, -, rfl⟩ := List.mem_map.1 he
    obtain ⟨k, -, hk⟩ := List.mem_filterMap.1 hr
    obtain rfl := Keyed.id_of_get? hk
    exact Keyed.mem_list.2 hk
  descriptors _ h := by cases h

theorem ofEvent {e : EventRecord} (h : e ∈ c.events.list) : From c (.ofEvents [c.event e]) := by
  have one : [e] ⊆ c.events.list := by simpa using h
  exact ofEvents one

theorem ofReadings {rs : List Reading} (h : rs ⊆ c.readings.list) : From c (.ofReadings rs) where
  events _ he := by cases he
  readings _ hr := h hr
  descriptors _ hd := by cases hd

theorem ofDescriptors {ds : List ValueDescriptor} (h : ds ⊆ c.descriptors.list) :
    From c (.ofDescriptors ds) where
  events _ he := by cases he
  readings _ hr := by cases hr
  descriptors _ hd := h hd

end From

end Shown

theorem take_filter_subset {α : Type} (n : Nat) (p : α → Bool) (l : List α) :
    (l.filter p).take n ⊆ l :=
  fun _ h => List.mem_of_mem_filter (List.mem_of_mem_take h)

namespace Operation

/-- The entities that the answer of an operation shows. -/
def shown : (op : Operation) → op.Answer → Shown
  | eventById _, e => .ofEvents [e]
  | events, es | eventsForDevice _, es | eventsForDeviceLimit .., es
  | eventsByCreationTime .., es | eventsOlderThanAge _, es | eventsPushed, es => .ofEvents es
  | readingById _, r => .ofReadings [r]
  | readings, rs | readingsByDevice .., rs | readingsByValueDescriptor .., rs
  | readingsByValueDescriptorNames .., rs | readingsByCreationTime .., rs
  | readingsByDeviceAndValueDescriptor .., rs => .ofReadings rs
  | valueDescriptorById _, d | valueDescriptorByName _, d => .ofDescriptors [d]
  | valueDescriptors, ds | valueDescriptorsByName _, ds | valueDescriptorsByUomLabel _, ds
  | valueDescriptorsByLabel _, ds | valueDescriptorsByType _, ds => .ofDescriptors ds
  | _, _ => .nothing

/-- Whether an operation only asks. Such an operation has one outcome for each catalogue. -/
def isQuery : Operation → Bool
  | close | addEvent _ | updateEvent _ | deleteEventById _ | scrubAllEvents | addReading _
  | updateReading _ | deleteReadingById _ | addValueDescriptor _ | updateValueDescriptor _
  | deleteValueDescriptorById _ | scrubAllValueDescriptors => false
  | _ => true

end Operation

/-! ## Outcomes

An outcome of an operation tells its answer and the catalogue that it leaves, for given arguments
and ids. Whatever is to hold of all operations is checked for the outcomes, which are few. -/

/-- The ids that an operation takes differ, and none of them is in use. This holds of every request
of a run in which no id is taken twice. -/
structure Clear (around : Surroundings) (v : World Catalogue) (op : Operation) : Prop where
  differ : ∀ i < op.ids, ∀ j < op.ids,
    around.fresh (v.taken + i) = around.fresh (v.taken + j) → i = j
  new : ∀ i < op.ids, ¬v.store.Has (around.fresh (v.taken + i))

/-- How an operation may end, with its answer and the catalogue that it leaves. The conditions of
the cases are all that is known of the arguments afterwards. -/
inductive Outcome (around : Surroundings) (v : World Catalogue) :
    (op : Operation) → Except StoreError op.Answer → World Catalogue → Prop where
  /-- a query leaves everything as it is and shows only what is there -/
  | answered {op : Operation} {a : op.Answer} (query : op.isQuery = true)
    (shows : (op.shown a).From v.store) : Outcome around v op (.ok a) v
  /-- an error leaves everything as it is, though an id may have been taken -/
  | refused {op : Operation} {e : StoreError} {taken : Nat} (foreseen : e.isUnexpected = false)
    (later : v.taken ≤ taken) : Outcome around v op (.error e) ⟨v.store, taken⟩
  /-- an id that an addition has taken is in use -/
  | clashed {op : Operation} {e : StoreError} {taken : Nat} (clash : ¬Clear around v op)
    (later : v.taken ≤ taken) : Outcome around v op (.error e) ⟨v.store, taken⟩
  /-- only the event has an id that is in use, and its readings stay behind -/
  | readingsLeft {e : Event} {err : StoreError} (clash : ¬Clear around v (.addEvent e)) :
    Outcome around v (.addEvent e) (.error err)
      ⟨v.store.putReadings (stamped around v.taken e).readings, v.taken + 1 + e.readings.length⟩
  /-- an event is put as it has been stamped, under an id that was not in use -/
  | eventAdded {e : Event} (new : v.store.events.get? (around.fresh v.taken) = none) :
    Outcome around v (.addEvent e) (.ok (around.fresh v.taken)) (eventAdded around v e)
  | eventUpdated {e : Event} {old : EventRecord} (stored : v.store.events.get? e.id = some old) :
    Outcome around v (.updateEvent e) (.ok ())
      ⟨v.store.putEvent (updated old { e with modified := around.now }), v.taken⟩
  | eventRemoved {text : String} {e : EventRecord} (stored : v.store.events.fetch text = .ok e) :
    Outcome around v (.deleteEventById text) (.ok ()) ⟨v.store.removeEvent e.id, v.taken⟩
  /-- the readings go with the events -/
  | eventsScrubbed {counts : UInt64 × UInt64} :
    Outcome around v .scrubAllEvents (.ok counts)
      ⟨v.store.removeReadings.removeEvents, v.taken⟩
  | readingAdded {r : Reading} (new : v.store.readings.get? (around.fresh v.taken) = none) :
    Outcome around v (.addReading r) (.ok (around.fresh v.taken))
      ⟨v.store.putReadings [{ r with id := around.fresh v.taken, created := around.now }],
        v.taken + 1⟩
  | readingUpdated {r old : Reading} (stored : v.store.readings.get? r.id = some old) :
    Outcome around v (.updateReading r) (.ok ())
      ⟨v.store.putReadings [{ r with modified := around.now }], v.taken⟩
  | readingRemoved {text : String} {r : Reading} (stored : v.store.readings.fetch text = .ok r) :
    Outcome around v (.deleteReadingById text) (.ok ()) ⟨v.store.removeReading r.id, v.taken⟩
  | descriptorAdded {d : ValueDescriptor}
    (new : v.store.descriptors.get? (around.fresh v.taken) = none)
    (free : FreeFor v.store (stampedDescriptor around v.taken d)) :
    Outcome around v (.addValueDescriptor d) (.ok (around.fresh v.taken))
      ⟨v.store.putDescriptor (stampedDescriptor around v.taken d) free, v.taken + 1⟩
  | descriptorUpdated {d old : ValueDescriptor} (free : FreeFor v.store d)
    (stored : v.store.descriptors.get? d.id = some old) :
    Outcome around v (.updateValueDescriptor d) (.ok ())
      ⟨v.store.putDescriptor { d with modified := around.now } free, v.taken⟩
  /-- the readings with the name of the descriptor have been counted, and there was none -/
  | descriptorRemoved {text : String} {d : ValueDescriptor}
    (stored : v.store.descriptors.fetch text = .ok d)
    (unused : ¬0 < UInt64.ofNat (v.store.readings.list.filter fun r => r.name = d.name).length) :
    Outcome around v (.deleteValueDescriptorById text) (.ok ())
      ⟨v.store.removeDescriptor d.id, v.taken⟩
  | descriptorsScrubbed {count : UInt64} :
    Outcome around v .scrubAllValueDescriptors (.ok count) ⟨v.store.removeDescriptors, v.taken⟩

namespace Outcome

variable {around : Surroundings} {v v' : World Catalogue} {op : Operation}
  {r : Except StoreError op.Answer}

/-- If the ids are new, every outcome is foreseen. -/
theorem foreseen (h : Outcome around v op r v') (clear : Clear around v op) : Foreseen r := by
  cases h with
  | refused foreseen _ => exact .error foreseen
  | clashed clash _ => exact absurd clear clash
  | readingsLeft clash => exact absurd clear clash
  | _ => exact .ok _

/-- The readings of an added event have ids that have been taken for it. -/
theorem grows_stamped {e : Event} {col : Collection} {k : ObjectId}
    (hk : (v.store.putReadings (stamped around v.taken e).readings).HasIn col k) :
    v.store.HasIn col k ∨
      ∃ i, v.taken ≤ i ∧ i < v.taken + 1 + e.readings.length ∧ around.fresh i = k := by
  refine (Catalogue.hasIn_putReadings hk).imp_right fun ⟨_, hk⟩ => ?_
  obtain ⟨r, hr, rfl⟩ := List.mem_map.1 hk
  obtain ⟨i, hi, hid⟩ := id_of_mem_stamped hr
  exact ⟨v.taken + 1 + i, by omega, by omega, hid.symm⟩

/-- What is there afterwards was there before or has an id that the operation has taken. No
operation brings an id into use that its caller has chosen. -/
theorem grows (h : Outcome around v op r v') {col : Collection} {k : ObjectId}
    (hk : v'.store.HasIn col k) :
    v.store.HasIn col k ∨ ∃ i, v.taken ≤ i ∧ i < v'.taken ∧ around.fresh i = k := by
  -- one case for each way to end: most write nothing new, and the others under ids that they have
  -- taken
  cases h with
  | answered _ _ => exact .inl hk
  | refused _ _ => exact .inl hk
  | clashed _ _ => exact .inl hk
  | readingsLeft _ => exact grows_stamped hk
  | @eventAdded e new =>
    rcases Catalogue.hasIn_putEvent hk with hk | ⟨-, rfl⟩
    · exact grows_stamped hk
    · refine .inr ⟨v.taken, Nat.le_refl _, ?_, rfl⟩
      change v.taken < v.taken + 1 + e.readings.length
      omega
  | eventUpdated stored =>
    refine .inl ((Catalogue.hasIn_putEvent hk).elim id ?_)
    rintro ⟨rfl, rfl⟩
    exact ⟨_, (congrArg v.store.events.get? (Keyed.id_of_get? stored)).trans stored⟩
  | eventRemoved _ => exact .inl (Catalogue.hasIn_removeEvent hk)
  | eventsScrubbed => exact .inl (Catalogue.hasIn_removeAllEvents hk)
  | readingAdded new =>
    refine (Catalogue.hasIn_putReadings hk).imp_right fun ⟨_, hk⟩ => ?_
    exact ⟨v.taken, Nat.le_refl _, Nat.lt_succ_self _, (List.mem_singleton.1 hk).symm⟩
  | readingUpdated stored =>
    refine .inl ((Catalogue.hasIn_putReadings hk).elim id ?_)
    rintro ⟨rfl, hmem⟩
    obtain rfl := List.mem_singleton.1 hmem
    exact ⟨_, stored⟩
  | readingRemoved _ => exact .inl (Catalogue.hasIn_removeReading hk)
  | descriptorAdded new free =>
    refine (Catalogue.hasIn_putDescriptor free hk).imp_right fun ⟨_, hk⟩ => ?_
    exact ⟨v.taken, Nat.le_refl _, Nat.lt_succ_self _, hk.symm⟩
  | @descriptorUpdated d old free stored =>
    refine .inl ((Catalogue.hasIn_putDescriptor (d := { d with modified := around.now }) free
      hk).elim id ?_)
    rintro ⟨rfl, rfl⟩
    exact ⟨_, stored⟩
  | descriptorRemoved _ _ => exact .inl (Catalogue.hasIn_removeDescriptor hk)
  | descriptorsScrubbed => exact .inl (Catalogue.hasIn_removeDescriptors hk)

/-- Every id in use has been taken then. -/
theorem issued (h : Outcome around v op r v') (hi : Issued around.fresh v)
    (later : v.taken ≤ v'.taken) : Issued around.fresh v' := by
  have grows : Grows around.fresh v v' := by
    intro k hk
    obtain ⟨col, hk⟩ := Catalogue.has_iff_hasIn.1 hk
    exact (h.grows hk).imp_left fun hk => Catalogue.has_iff_hasIn.2 ⟨col, hk⟩
  exact grows.issued hi later

end Outcome

/-! ## Every operation has an outcome -/

/-- An operation does to a catalogue what one of its outcomes says. Which of them it is depends on
the catalogue and the arguments. -/
def Ends (around : Surroundings) (op : Operation) (v : World Catalogue) : Prop :=
  ∃ r v', Yields around op.action v r v' ∧ Outcome around v op r v'

namespace Ends

variable {around : Surroundings} {v : World Catalogue} {op : Operation}

/-- A query answers with what is in the catalogue, and leaves it as it is. -/
theorem answered {a : op.Answer} (h : Yields around op.action v (.ok a) v)
    (query : op.isQuery = true) (shows : (op.shown a).From v.store) : Ends around op v :=
  ⟨_, _, h, .answered query shows⟩

/-- An operation that is refused leaves the catalogue as it is. -/
theorem refused {e : StoreError} (h : Yields around op.action v (.error e) v)
    (foreseen : e.isUnexpected = false) : Ends around op v :=
  ⟨_, _, h, .refused foreseen (Nat.le_refl _)⟩

/-- A look-up by the text of an id answers with what is there, or is refused. -/
theorem fetched {α : Type} [Entity α] {s : Keyed α} {text : String} {f : α → op.Answer}
    (h : Yields around op.action v ((s.fetch text).map f) v) (query : op.isQuery = true)
    (shows : ∀ a ∈ s.list, (op.shown (f a)).From v.store) : Ends around op v := by
  cases hf : s.fetch text with
  | error e =>
    rw [hf] at h
    exact .refused h (Foreseen.of_fetch hf)
  | ok a =>
    rw [hf] at h
    exact .answered h query (shows a (Keyed.fetch_eq_ok.1 hf).2)

end Ends

/-! ### Additions -/

section

variable {α : Type} [Entity α] {around : Surroundings} {v : World Catalogue} {s : Keyed α}
  {c : Collection} (hs : ∀ n, (v.store.store n).table c = s.table)

include hs

/-- A batch of entities is refused as a whole if an id is in use or occurs twice. The error tells
one of them; which one is not said here. -/
theorem Action.Yields.insert_clash {as : List α}
    (clash : ¬((as.map Entity.id).Nodup ∧ ∀ a ∈ as, s.get? (Entity.id a) = none)) :
    ∃ e, Yields around (Action.call (.insert c (as.map Entity.toDocument))) v (.error e) v := by
  cases hall : Memory.adoptAll c s.table (as.map Entity.toDocument) with
  | error e =>
    refine ⟨e, .insert fun n => ?_⟩
    rw [Memory.insert_eq_adoptAll, hs, hall]
  | ok t =>
    -- what is adopted has new ids
    have fits := Memory.insertable_iff.2 ⟨t, hall⟩
    refine absurd ⟨List.pairwise_map.2 ?_, fun a ha => ?_⟩ clash
    · refine (List.pairwise_map.1 fits.distinctIds).imp fun hne he => hne ?_
      rw [Entity.id_toDocument, Entity.id_toDocument, he]
    · have new := fits.newIds _ (List.mem_map_of_mem ha) _ (Entity.id_toDocument a)
      rwa [Keyed.get?_table, Option.map_eq_none_iff] at new

/-- One entity is refused if its id is in use. -/
theorem Action.Yields.insertOne_clash {a b : α} (h : s.get? (Entity.id a) = some b) :
    ∃ e, Yields around (Action.insertOne c (Entity.toDocument a)) v (.error e) v := by
  have clash : ¬(([a].map Entity.id).Nodup ∧ ∀ a' ∈ [a], s.get? (Entity.id a') = none) := by
    rintro ⟨-, new⟩
    rw [new a (List.mem_singleton_self a)] at h
    cases h
  exact insert_clash hs clash

end

section

variable {around : Surroundings} {v : World Catalogue}

/-- If every id in use has been taken and the next ones differ from all before, they are clear. -/
theorem Issued.clear (hi : Issued around.fresh v) {op : Operation}
    (hd : Distinct around.fresh (v.taken + op.ids)) : Clear around v op where
  differ i hi j hj he := by
    have := hd (v.taken + i) (v.taken + j) (by omega) (by omega) he
    omega
  new i hlt := hi.new hd (Nat.le_add_right ..) (by omega)

theorem Clear.next {op : Operation} (h : Clear around v op) (hop : 0 < op.ids) :
    ¬v.store.Has (around.fresh v.taken) := h.new 0 hop

section

variable {e : Event} (h : Clear around v (.addEvent e))

include h

/-- The readings of an added event have different ids. -/
theorem Clear.nodup : ((stamped around v.taken e).readings.map Reading.id).Nodup := by
  refine stamped_ids_nodup fun i hi j hj he => ?_
  rw [Nat.add_assoc, Nat.add_assoc] at he
  have ids : (Operation.addEvent e).ids = 1 + e.readings.length := rfl
  have := h.differ (1 + i) (by omega) (1 + j) (by omega) he
  omega

/-- None of the ids of its readings is in use. -/
theorem Clear.readings_new {r : Reading} (hr : r ∈ (stamped around v.taken e).readings) :
    v.store.readings.get? r.id = none := by
  obtain ⟨i, hi, hid⟩ := id_of_mem_stamped hr
  have ids : (Operation.addEvent e).ids = 1 + e.readings.length := rfl
  rw [hid, Nat.add_assoc]
  exact Keyed.get?_of_not_has fun hk => h.new (1 + i) (by omega) (.inr (.inl hk))

theorem Clear.event_new : v.store.events.get? (around.fresh v.taken) = none :=
  Keyed.get?_of_not_has fun hk =>
    h.next (Nat.lt_of_lt_of_le Nat.zero_lt_one (Nat.le_add_right ..)) (.inl hk)

end

/-- As an operation, adding an event ends as storing the stamped event does. -/
theorem addEvent_of_storeEvent {e : Event} {r : Except StoreError ObjectId}
    {v' : World Catalogue}
    (h : Yields around (storeEvent (stamped around v.taken e))
      ⟨v.store, v.taken + 1 + e.readings.length⟩ r v') :
    Yields around (Operation.addEvent e).action v r v' := by
  intro n
  obtain ⟨n', hstore⟩ := h n
  refine ⟨n', ?_⟩
  rw [Operation.exec_addEvent, addEvent_run]
  exact hstore

/-- With new ids an event is added as it has been stamped. -/
theorem addEvent_yields {e : Event}
    (hids : ((stamped around v.taken e).readings.map Reading.id).Nodup)
    (hreadings : ∀ r ∈ (stamped around v.taken e).readings, v.store.readings.get? r.id = none)
    (hevent : v.store.events.get? (around.fresh v.taken) = none) :
    Yields around (Operation.addEvent e).action v (.ok (around.fresh v.taken))
      (eventAdded around v e) :=
  addEvent_of_storeEvent (storeEvent_yields hids hreadings hevent)

/-- The readings of an event are refused, or its record is, or all are put. In the second case the
readings stay behind, as there are two calls. -/
theorem addEvent_ends (e : Event) : Ends around (.addEvent e) v := by
  by_cases fits : ((stamped around v.taken e).readings.map Reading.id).Nodup ∧
      ∀ r ∈ (stamped around v.taken e).readings, v.store.readings.get? r.id = none
  · obtain ⟨hids, hreadings⟩ := fits
    cases hevent : v.store.events.get? (around.fresh v.taken) with
    | none => exact ⟨_, _, addEvent_yields hids hreadings hevent, .eventAdded hevent⟩
    | some old =>
      have clash : ¬Clear around v (.addEvent e) := fun clear => by
        rw [clear.event_new] at hevent
        cases hevent
      obtain ⟨err, refused⟩ := Yields.insertOne_clash
        (v := ⟨v.store.putReadings (stamped around v.taken e).readings,
          v.taken + 1 + e.readings.length⟩)
        (c := .events) (fun _ => rfl) (a := (stamped around v.taken e).toRecord) hevent
      have stored := storeEvent_record (v := ⟨v.store, v.taken + 1 + e.readings.length⟩)
        hids hreadings refused
      exact ⟨_, _, addEvent_of_storeEvent stored, .readingsLeft clash⟩
  · have clash : ¬Clear around v (.addEvent e) := fun clear =>
      fits ⟨clear.nodup, fun _ hr => clear.readings_new hr⟩
    obtain ⟨err, refused⟩ := Yields.insert_clash
      (v := ⟨v.store, v.taken + 1 + e.readings.length⟩) (c := .readings) (fun _ => rfl) fits
    have stopped : Yields around (storeEvent (stamped around v.taken e))
        ⟨v.store, v.taken + 1 + e.readings.length⟩ (.error err)
        ⟨v.store, v.taken + 1 + e.readings.length⟩ := by
      unfold storeEvent
      -- no readings would fit
      rcases h : (stamped around v.taken e).readings with _ | ⟨r, rs⟩
      · rw [h] at fits
        exact absurd ⟨List.nodup_nil, nofun⟩ fits
      · rw [h] at refused
        exact refused.stop _
    exact ⟨_, _, addEvent_of_storeEvent stopped, .clashed clash (by omega)⟩

/-- A reading is added, or its id is in use. -/
theorem addReading_ends (r : Reading) : Ends around (.addReading r) v := by
  cases h : v.store.readings.get? (around.fresh v.taken) with
  | none => exact ⟨_, _, addReading_yields r h, .readingAdded h⟩
  | some a =>
    have clash : ¬Clear around v (.addReading r) := fun clear =>
      clear.next Nat.zero_lt_one (.inr (.inl ⟨a, h⟩))
    obtain ⟨e, refused⟩ := Yields.insertOne_clash (v := ⟨v.store, v.taken + 1⟩)
      (c := .readings) (fun _ => rfl)
      (a := { r with id := around.fresh v.taken, created := around.now }) h
    exact ⟨_, _, Yields.takeId.bind (Yields.clock.bind (refused.stop _)),
      .clashed clash (Nat.le_succ _)⟩

/-- An added descriptor is refused for its id or its name, or put. -/
theorem addValueDescriptor_ends (d : ValueDescriptor) : Ends around (.addValueDescriptor d) v := by
  cases h : v.store.descriptors.get? (around.fresh v.taken) with
  | some a =>
    have clash : ¬Clear around v (.addValueDescriptor d) := fun clear =>
      clear.next Nat.zero_lt_one (.inr (.inr ⟨a, h⟩))
    obtain ⟨e, refused⟩ := Yields.insertOne_clash (v := ⟨v.store, v.taken + 1⟩)
      (c := .valueDescriptors) (fun _ => rfl) (a := stampedDescriptor around v.taken d) h
    exact ⟨_, _, Yields.clock.bind (Yields.takeId.bind ((refused.adapt _).stop _)),
      .clashed clash (Nat.le_succ _)⟩
  | none =>
    cases ha : v.store.named? d.name with
    | some a => exact ⟨_, _, addValueDescriptor_taken h ha, .refused rfl (Nat.le_succ _)⟩
    | none =>
      obtain ⟨free, hput⟩ := addValueDescriptor_new (d := d) h ha
      exact ⟨_, _, hput, .descriptorAdded h free⟩

end

/-! ### Changes and deletions -/

section

variable {around : Surroundings} {v : World Catalogue}

theorem updateEvent_ends (e : Event) : Ends around (.updateEvent e) v := by
  cases h : v.store.events.get? e.id with
  | none => exact .refused (updateEvent_missing h) rfl
  | some old => exact ⟨_, _, updateEvent_stored h, .eventUpdated h⟩

theorem updateReading_ends (r : Reading) : Ends around (.updateReading r) v := by
  cases h : v.store.readings.get? r.id with
  | none => exact .refused (updateReading_missing h) rfl
  | some old => exact ⟨_, _, updateReading_stored h, .readingUpdated h⟩

/-- A name that is not free belongs to another descriptor. -/
theorem exists_of_not_freeFor {c : Catalogue} {d : ValueDescriptor} (h : ¬FreeFor c d) :
    ∃ a, c.named? d.name = some a ∧ a.id ≠ d.id := by
  unfold FreeFor at h
  push Not at h
  obtain ⟨a, ha, hn, hne⟩ := h
  exact ⟨a, Catalogue.named?_eq_some.2 ⟨ha, hn⟩, hne⟩

/-- A descriptor is changed, or its name is taken, or there is none. -/
theorem updateValueDescriptor_ends (d : ValueDescriptor) :
    Ends around (.updateValueDescriptor d) v := by
  by_cases free : FreeFor v.store d
  · cases h : v.store.descriptors.get? d.id with
    | none => exact .refused (updateValueDescriptor_missing free h) rfl
    | some old => exact ⟨_, _, updateValueDescriptor_stored free h, .descriptorUpdated free h⟩
  · obtain ⟨a, named, hne⟩ := exists_of_not_freeFor free
    exact .refused (updateValueDescriptor_taken named hne) rfl

theorem deleteEventById_ends (text : String) : Ends around (.deleteEventById text) v := by
  cases h : v.store.events.fetch text with
  | error e => exact .refused (deleteEventById_error h) (Foreseen.of_fetch h)
  | ok e => exact ⟨_, _, deleteEventById_ok h, .eventRemoved h⟩

theorem deleteReadingById_ends (text : String) : Ends around (.deleteReadingById text) v := by
  cases h : v.store.readings.fetch text with
  | error e => exact .refused (deleteReadingById_error h) (Foreseen.of_fetch h)
  | ok r => exact ⟨_, _, deleteReadingById_ok h, .readingRemoved h⟩

/-- A descriptor is deleted, or a reading has its name, or the text stands for none. Only in the
first case is anything changed. -/
theorem deleteValueDescriptorById_ends (text : String) :
    Ends around (.deleteValueDescriptorById text) v := by
  cases h : v.store.descriptors.fetch text with
  | error e => exact .refused (deleteValueDescriptorById_error h) (Foreseen.of_fetch h)
  | ok d =>
    by_cases used :
        0 < UInt64.ofNat (v.store.readings.list.filter fun r => r.name = d.name).length
    · exact .refused (deleteValueDescriptorById_inUse h used) rfl
    · exact ⟨_, _, deleteValueDescriptorById_unused h used, .descriptorRemoved h used⟩

/-! ### Queries -/

/-- A name stands for one descriptor or for none. -/
theorem valueDescriptorByName_ends (name : String) :
    Ends around (.valueDescriptorByName name) v := by
  have found : Yields around (valueDescriptorByName name) v
      (orNotFound (v.store.named? name)) v := valueDescriptorByName_yields name
  cases h : v.store.named? name with
  | none =>
    rw [h] at found
    exact .refused found rfl
  | some d =>
    rw [h] at found
    obtain ⟨hd, -⟩ := Catalogue.named?_eq_some.1 h
    exact .answered found rfl (.ofDescriptors (by simpa using hd))

theorem valueDescriptorsByName_ends (names : List String) :
    Ends around (.valueDescriptorsByName names) v := by
  refine .answered (valueDescriptorsByName_yields names) rfl (.ofDescriptors fun d hd => ?_)
  obtain ⟨name, -, h⟩ := List.mem_filterMap.1 hd
  exact (Catalogue.named?_eq_some.1 h).1

end

/-- Every operation ends in one of the ways. All that is proved of runs is proved by cases on these,
so no later proof looks at a program. -/
theorem Operation.outcome {around : Surroundings} {v : World Catalogue} (op : Operation)
    (hop : op ≠ .close) : Ends around op v := by
  cases op with
  | close => exact absurd rfl hop
  | ping => exact .answered .ping rfl .nothing
  | events => exact .answered events_yields rfl (.ofEvents (List.Subset.refl _))
  | eventById text =>
    exact .fetched (eventById_yields text) rfl fun e he => .ofEvent he
  | eventsForDevice device =>
    exact .answered (eventsForDevice_yields device) rfl (.ofEvents (List.filter_subset_self _))
  | eventsForDeviceLimit device limit =>
    exact .answered (eventsForDeviceLimit_yields device limit) rfl
      (.ofEvents (take_filter_subset ..))
  | eventsByCreationTime start stop limit =>
    exact .answered (eventsByCreationTime_yields start stop limit) rfl
      (.ofEvents (take_filter_subset ..))
  | eventsOlderThanAge age =>
    exact .answered (eventsOlderThanAge_yields age) rfl (.ofEvents (List.filter_subset_self _))
  | eventsPushed => exact .answered eventsPushed_yields rfl (.ofEvents (List.filter_subset_self _))
  | eventCount => exact .answered eventCount_yields rfl .nothing
  | eventCountByDevice device =>
    exact .answered (eventCountByDevice_yields device) rfl .nothing
  -- operations that can fail for more than one reason have their ways in a lemma of their own
  | addEvent e => exact addEvent_ends e
  | updateEvent e => exact updateEvent_ends e
  | deleteEventById text => exact deleteEventById_ends text
  | scrubAllEvents => exact ⟨_, _, scrubAllEvents_yields, .eventsScrubbed⟩
  | readings => exact .answered readings_yields rfl (.ofReadings (List.Subset.refl _))
  -- what is found is the answer itself here, so `fetched` is used with the identity
  | readingById text =>
    have found : Yields around (Operation.readingById text).action v
        ((v.store.readings.fetch text).map id) v := by
      rw [Except.map_id]
      exact readingById_yields text
    exact .fetched found rfl fun r hr => .ofReadings (by simpa using hr)
  | readingsByDevice device limit =>
    exact .answered (readingsByDevice_yields device limit) rfl
      (.ofReadings (take_filter_subset ..))
  | readingsByValueDescriptor name limit =>
    exact .answered (readingsByValueDescriptor_yields name limit) rfl
      (.ofReadings (take_filter_subset ..))
  | readingsByValueDescriptorNames names limit =>
    exact .answered (readingsByValueDescriptorNames_yields names limit) rfl
      (.ofReadings (take_filter_subset ..))
  | readingsByCreationTime start stop limit =>
    exact .answered (readingsByCreationTime_yields start stop limit) rfl
      (.ofReadings (take_filter_subset ..))
  | readingsByDeviceAndValueDescriptor device name limit =>
    exact .answered (readingsByDeviceAndValueDescriptor_yields device name limit) rfl
      (.ofReadings (take_filter_subset ..))
  | readingCount => exact .answered readingCount_yields rfl .nothing
  | addReading r => exact addReading_ends r
  | updateReading r => exact updateReading_ends r
  | deleteReadingById text => exact deleteReadingById_ends text
  | valueDescriptors =>
    exact .answered valueDescriptors_yields rfl (.ofDescriptors (List.Subset.refl _))
  | valueDescriptorById text =>
    have found : Yields around (Operation.valueDescriptorById text).action v
        ((v.store.descriptors.fetch text).map id) v := by
      rw [Except.map_id]
      exact valueDescriptorById_yields text
    exact .fetched found rfl fun d hd => .ofDescriptors (by simpa using hd)
  | valueDescriptorByName name => exact valueDescriptorByName_ends name
  | valueDescriptorsByName names => exact valueDescriptorsByName_ends names
  | valueDescriptorsByUomLabel uomLabel =>
    exact .answered (valueDescriptorsByUomLabel_yields uomLabel) rfl
      (.ofDescriptors (List.filter_subset_self _))
  | valueDescriptorsByLabel label =>
    exact .answered (valueDescriptorsByLabel_yields label) rfl
      (.ofDescriptors (List.filter_subset_self _))
  | valueDescriptorsByType valueType =>
    exact .answered (valueDescriptorsByType_yields valueType) rfl
      (.ofDescriptors (List.filter_subset_self _))
  | valueDescriptorCount => exact .answered valueDescriptorCount_yields rfl .nothing
  | addValueDescriptor d => exact addValueDescriptor_ends d
  | updateValueDescriptor d => exact updateValueDescriptor_ends d
  | deleteValueDescriptorById text => exact deleteValueDescriptorById_ends text
  | scrubAllValueDescriptors =>
    exact ⟨_, _, scrubAllValueDescriptors_yields, .descriptorsScrubbed⟩

end Telemetry
