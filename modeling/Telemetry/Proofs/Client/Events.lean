import Mathlib.Data.List.Nodup
import Telemetry.Proofs.Client.Yields

/-!
# What the operations on events do

The queries list the events with a property, each with those of its readings that are in the
catalogue.

* `addEvent_new` — an event with new ids is put as it has been stamped, after its readings.
* `merge_updatedFields` — setting the fields of an update in the document of a record makes the
  document of the record with these fields: its id and the readings it names stay.
-/

namespace Telemetry

open Client Program
open Telemetry.Action (Yields)

namespace EventRecord

/-! ## The conditions that are asked of events -/

/-- The filter for a device selects the events of the device. The lemmas after this one say the same
of the other conditions. -/
theorem holds_device (e : EventRecord) (device : String) :
    (Filter.eq "device" (.string device)).holds e.toDocument = decide (e.device = device) := by
  refine Filter.holds_eq_string ?_ device
  simp [get?_toDocument, fields, OrderedMap.lookup]

theorem get?_created (e : EventRecord) :
    e.toDocument.get? "created" = some (.ofInt64 e.created) := by
  simp [get?_toDocument, fields, OrderedMap.lookup]

/-- The filter for a span of time selects the events created in it, both ends included. -/
theorem holds_created (e : EventRecord) (start stop : Timestamp) :
    (Filter.range "created" (.included start) (.included stop)).holds e.toDocument
      = decide (start ≤ e.created ∧ e.created ≤ stop) := by
  rw [Filter.holds_range_int64 e.get?_created, Bool.decide_and]
  rfl

theorem holds_createdBefore (e : EventRecord) (stop : Timestamp) :
    (Filter.range "created" .unbounded (.excluded stop)).holds e.toDocument
      = decide (e.created < stop) := by
  rw [Filter.holds_range_int64 e.get?_created]
  exact Bool.true_and _

/-- The filter for passed-on events selects those that have a time for it. -/
theorem holds_pushed (e : EventRecord) :
    (Filter.range "pushed" (.excluded 0) .unbounded).holds e.toDocument
      = decide (0 < e.pushed) := by
  rw [Filter.holds_range_int64 (n := e.pushed)]
  · exact Bool.and_true _
  · simp [get?_toDocument, fields, OrderedMap.lookup]

end EventRecord

namespace Client

variable {around : Surroundings} {v : World Catalogue}

/-! ## Queries -/

section

variable {f : Filter} {p : EventRecord → Bool}
  (hf : ∀ e : EventRecord, f.holds e.toDocument = p e)

include hf

/-- A query for events answers with the events of a property, if the filter tests for the property.
-/
theorem getEvents_yields :
    Yields around (getEvents f) v
      (.ok ((v.store.events.list.filter p).map v.store.event)) v :=
  (Yields.find (s := v.store.events) (fun _ => rfl) hf).bind (.loadEvents _)

theorem getEventsLimit_yields (limit : UInt64) :
    Yields around (getEventsLimit f limit) v
      (.ok (((v.store.events.list.filter p).take limit.toNat).map v.store.event)) v :=
  (Yields.findLimit (s := v.store.events) (fun _ => rfl) hf limit).bind (.loadEvents _)

end

theorem events_yields :
    Yields around events v (.ok (v.store.events.list.map v.store.event)) v :=
  (Yields.findAll (s := v.store.events) fun _ => rfl).bind (.loadEvents _)

theorem eventsForDevice_yields (device : String) :
    Yields around (eventsForDevice device) v
      (.ok ((v.store.events.list.filter fun e => e.device = device).map v.store.event)) v :=
  getEvents_yields fun e => e.holds_device device

theorem eventsForDeviceLimit_yields (device : String) (limit : UInt64) :
    Yields around (eventsForDeviceLimit device limit) v
      (.ok (((v.store.events.list.filter fun e => e.device = device).take limit.toNat).map
        v.store.event)) v :=
  getEventsLimit_yields (fun e => e.holds_device device) limit

theorem eventsByCreationTime_yields (start stop : Timestamp) (limit : UInt64) :
    Yields around (eventsByCreationTime start stop limit) v
      (.ok (((v.store.events.list.filter fun e => start ≤ e.created ∧ e.created ≤ stop).take
        limit.toNat).map v.store.event)) v :=
  getEventsLimit_yields (fun e => e.holds_created start stop) limit

/-- The events created before the bound are listed, where the bound is cut off at the ends of the
range. -/
theorem eventsOlderThanAge_yields (age : Int64) :
    Yields around (eventsOlderThanAge age) v
      (.ok ((v.store.events.list.filter fun e => e.created < saturatingSub around.now age).map
        v.store.event)) v :=
  Yields.clock.bind (getEvents_yields fun e => e.holds_createdBefore _)

theorem eventsPushed_yields :
    Yields around eventsPushed v
      (.ok ((v.store.events.list.filter fun e => 0 < e.pushed).map v.store.event)) v :=
  getEvents_yields fun e => e.holds_pushed

/-- The events are counted. The count is a word, so it is the number only as far as a word goes. -/
theorem eventCount_yields :
    Yields around eventCount v (.ok (UInt64.ofNat v.store.events.list.length)) v :=
  Yields.countAll fun _ => rfl

theorem eventCountByDevice_yields (device : String) :
    Yields around (eventCountByDevice device) v
      (.ok (UInt64.ofNat (v.store.events.list.filter fun e => e.device = device).length)) v :=
  Yields.count (s := v.store.events) (fun _ => rfl) fun e => e.holds_device device

theorem eventById_yields (text : String) :
    Yields around (eventById text) v ((v.store.events.fetch text).map v.store.event) v :=
  Yields.fetch (s := v.store.events) (fun _ => rfl) text fun e =>
    (Yields.loadEvents [e]).bind (.pure _)

/-- An event that is stored is found by the text of its id. -/
theorem eventById_stored {k : ObjectId} {e : EventRecord} (h : v.store.events.get? k = some e) :
    Yields around (eventById k.toHex) v (.ok (v.store.event e)) v := by
  have found : Yields around (eventById k.toHex) v
      ((v.store.events.fetch k.toHex).map v.store.event) v := eventById_yields _
  rw [Keyed.fetch_of_parse (ObjectId.parse?_toHex k), h] at found
  exact found

/-! ## Adding -/

/-- An event as it is added in given surroundings, when `first` ids have been taken. The event takes
the next one, and its readings those after it. -/
def stamped (around : Surroundings) (first : Nat) (e : Event) : Event :=
  { e with
    id := around.fresh first
    created := around.now
    readings := e.readings.mapIdx fun i r =>
      { r with id := around.fresh (first + 1 + i), created := around.now, device := e.device } }

/-- The ids of the readings are those taken after the one of the event. -/
theorem stamped_ids (around : Surroundings) (first : Nat) (e : Event) :
    (stamped around first e).readings.map Reading.id
      = (List.range e.readings.length).map fun i => around.fresh (first + 1 + i) := by
  refine List.ext_getElem ?_ fun i hi hi' => ?_
  · simp [stamped]
  · simp [stamped]

/-- If the ids that are taken for its readings differ, so do the ids of a stamped event. -/
theorem stamped_ids_nodup {around : Surroundings} {first : Nat} {e : Event}
    (h : ∀ i < e.readings.length, ∀ j < e.readings.length,
      around.fresh (first + 1 + i) = around.fresh (first + 1 + j) → i = j) :
    ((stamped around first e).readings.map Reading.id).Nodup := by
  rw [stamped_ids]
  refine List.Nodup.map_on (fun i hi j hj => ?_) List.nodup_range
  exact h i (List.mem_range.1 hi) j (List.mem_range.1 hj)

/-- A reading of a stamped event has one of the ids that are taken for the readings. -/
theorem id_of_mem_stamped {around : Surroundings} {first : Nat} {e : Event} {r : Reading}
    (hr : r ∈ (stamped around first e).readings) :
    ∃ i < e.readings.length, r.id = around.fresh (first + 1 + i) := by
  have hid : r.id ∈ (stamped around first e).readings.map Reading.id := List.mem_map_of_mem hr
  rw [stamped_ids] at hid
  obtain ⟨i, hi, he⟩ := List.mem_map.1 hid
  exact ⟨i, List.mem_range.1 hi, he.symm⟩

section

variable {σ : Type} (b : Backend σ) (around : Surroundings)

/-- Stamping takes one id for each reading, in order, and does nothing to the store. The induction
is over the readings, with the number of ids taken before them. -/
theorem stampReadings_run (created : Timestamp) (device : String) :
    ∀ (rs : List Reading) (w : World σ),
      (stampReadings created device rs).run b around w
        = (rs.mapIdx fun i r =>
            { r with id := around.fresh (w.taken + i), created := created, device := device },
          { w with taken := w.taken + rs.length })
  | [], _ => rfl
  | r :: rs, w => by
    have rest := stampReadings_run created device rs { w with taken := w.taken + 1 }
    -- the rest is counted from the next id on
    have later (i : Nat) : w.taken + 1 + i = w.taken + (i + 1) := by omega
    simp only [later] at rest
    change (((stampReadings created device rs).bind _).run b around
      { w with taken := w.taken + 1 }) = _
    rw [run_bind, rest, List.mapIdx_cons]
    rfl

/-- Stamping takes one id for the event and one for each of its readings. -/
theorem stamp_run (e : Event) (w : World σ) :
    (stamp e).run b around w
      = (stamped around w.taken e, { w with taken := w.taken + 1 + e.readings.length }) := by
  change (((stampReadings around.now e.device e.readings).bind _).run b around
    { w with taken := w.taken + 1 }) = _
  rw [run_bind, stampReadings_run]
  rfl

end

/-- New readings of an event are put, or there are none; what comes of its record is the result. By
then the readings are there, so the record decides alone. -/
theorem storeEvent_record {e : Event} (hids : (e.readings.map Reading.id).Nodup)
    (hreadings : ∀ r ∈ e.readings, v.store.readings.get? r.id = none)
    {r : Except StoreError Unit} {v' : World Catalogue}
    (record : Yields around (Action.insertOne .events e.toRecord.toDocument)
      ⟨v.store.putReadings e.readings, v.taken⟩ r v') :
    Yields around (storeEvent e) v (r.map fun _ => e.id) v' := by
  have readings : Yields around
      (Action.call (.insert .readings (e.readings.map Reading.toDocument))) v (.ok ())
      ⟨v.store.putReadings e.readings, v.taken⟩ :=
    .insert fun n => Memory.insert_putAll (m := v.store.store n) (s := v.store.readings) rfl rfl
      hids hreadings
  have rest : Yields around
      (Action.insertOne .events e.toRecord.toDocument >>= fun _ => pure e.id)
      ⟨v.store.putReadings e.readings, v.taken⟩ (r.map fun _ => e.id) v' := by
    cases r with
    | ok x => exact record.bind (.pure _)
    | error err => exact record.stop _
  unfold storeEvent
  -- without readings the insertion is left out, and putting none changes nothing
  rcases h : e.readings with _ | ⟨r, rs⟩
  · rw [h] at rest
    exact rest
  · rw [h] at rest readings
    exact readings.bind rest

/-- The readings of an event are put first, then its record. -/
theorem storeEvent_yields {e : Event} (hids : (e.readings.map Reading.id).Nodup)
    (hreadings : ∀ r ∈ e.readings, v.store.readings.get? r.id = none)
    (hevent : v.store.events.get? e.id = none) :
    Yields around (storeEvent e) v (.ok e.id)
      ⟨(v.store.putReadings e.readings).putEvent e.toRecord, v.taken⟩ := by
  refine storeEvent_record (r := .ok ()) hids hreadings (.insert fun n => ?_)
  exact Memory.insert_put (m := (v.store.putReadings e.readings).store n)
    (s := v.store.events) (a := e.toRecord) rfl rfl hevent

/-- Adding an event is storing it as it has been stamped. -/
theorem addEvent_run {σ : Type} (b : Backend σ) (around : Surroundings) (e : Event) (w : World σ) :
    (addEvent e).run b around w
      = ((stamped around w.taken e,
          (exec b around (storeEvent (stamped around w.taken e))
            { w with taken := w.taken + 1 + e.readings.length }).1),
        (exec b around (storeEvent (stamped around w.taken e))
          { w with taken := w.taken + 1 + e.readings.length }).2) := by
  change ((stamp e).bind _).run b around w = _
  rw [run_bind, stamp_run]
  change ((storeEvent (stamped around w.taken e)).run.bind _).run b around _ = _
  rw [run_bind]
  rfl

/-- The world with the readings and the record of an event as it has been stamped. One id has been
taken for the event and one for each of its readings. -/
def eventAdded (around : Surroundings) (v : World Catalogue) (e : Event) : World Catalogue :=
  ⟨(v.store.putReadings (stamped around v.taken e).readings).putEvent
    (stamped around v.taken e).toRecord, v.taken + 1 + e.readings.length⟩

/-- An event with new ids is put as it has been stamped. This is the case in which an addition
succeeds. -/
theorem addEvent_new {e : Event}
    (hids : ((stamped around v.taken e).readings.map Reading.id).Nodup)
    (hreadings : ∀ r ∈ (stamped around v.taken e).readings, v.store.readings.get? r.id = none)
    (hevent : v.store.events.get? (around.fresh v.taken) = none) (n : Nat) :
    ∃ n', (addEvent e).run Memory.backend around (v.storing n)
      = ((stamped around v.taken e, .ok (around.fresh v.taken)),
        (eventAdded around v e).storing n') := by
  have stored : Yields around (storeEvent (stamped around v.taken e))
      ⟨v.store, v.taken + 1 + e.readings.length⟩ (.ok (around.fresh v.taken))
      (eventAdded around v e) :=
    storeEvent_yields hids hreadings hevent
  obtain ⟨n', hstore⟩ := stored n
  refine ⟨n', (addEvent_run ..).trans ?_⟩
  exact congrArg (fun r => ((stamped around v.taken e, r.1), r.2)) hstore

/-! ## Changing and deleting -/

/-- An event after an update: the fields of the given one, with the id and the readings of the one
that was there. -/
def updated (old : EventRecord) (e : Event) : EventRecord :=
  ⟨old.id, e.pushed, e.device, e.created, e.modified, e.origin, old.readings⟩

/-- An update sets every field but the id and the readings. -/
theorem get?_updatedFields (e : Event) (name : String) :
    (updatedFields e).get? name
      = if name = "id" ∨ name = "readings" then none else e.toRecord.toDocument.get? name := by
  rw [updatedFields, OrderedMap.get?_erase, OrderedMap.get?_erase]
  simp only [Std.LawfulEqCmp.compare_eq_iff_eq]
  by_cases hid : name = "id" <;> by_cases hreadings : name = "readings" <;> simp [hid, hreadings]

/-- Setting the fields of an update changes the record in these fields. The id and the readings are
not among them, so the record keeps its own. -/
theorem merge_updatedFields (old : EventRecord) (e : Event) :
    ((Update.set (updatedFields e)).apply old.toDocument).withId old.id
      = (updated old e).toDocument := by
  have field (c : Prop) [Decidable c] (new stored : Json.Value) (x y : Option Json.Value) :
      (if c then some new else x).or (if c then some stored else y)
        = if c then some new else x.or y := by
    split <;> rfl
  refine OrderedMap.ext_get? fun name => ?_
  change (((old.toDocument.insertAll (updatedFields e)).insert "id" _).get? name) = _
  rw [OrderedMap.get?_insert, OrderedMap.get?_insertAll, get?_updatedFields]
  simp only [EventRecord.get?_toDocument, EventRecord.fields, OrderedMap.lookup,
    Std.LawfulEqCmp.compare_eq_iff_eq, List.reverse_cons, List.reverse_nil, List.nil_append,
    List.cons_append, updated, Event.toRecord]
  by_cases hid : name = "id"
  · simp [hid]
  · by_cases hreadings : name = "readings"
    · simp [hreadings]
    · -- every other field is one that the update sets
      simp only [hid, hreadings, if_false, or_self, field, Option.or_none]

theorem updateEvent_missing {e : Event} (h : v.store.events.get? e.id = none) :
    Yields around (updateEvent e) v (.error .notFound) v :=
  Yields.clock.bind (.update fun n =>
    Memory.update_missing (m := v.store.store n) (s := v.store.events) rfl h _)

/-- An event that is there is changed, and keeps its readings, whatever readings the given event
has. -/
theorem updateEvent_stored {e : Event} {old : EventRecord}
    (h : v.store.events.get? e.id = some old) :
    Yields around (updateEvent e) v (.ok ())
      ⟨v.store.putEvent (updated old { e with modified := around.now }), v.taken⟩ := by
  have hid : old.id = e.id := Keyed.id_of_get? h
  refine Yields.clock.bind (.update fun n => ?_)
  have merged := merge_updatedFields old { e with modified := around.now }
  rw [hid] at merged
  exact Memory.update_put (m := v.store.store n) (s := v.store.events)
    (b := updated old { e with modified := around.now }) rfl h hid merged rfl

theorem deleteEventById_error {text : String} {err : StoreError}
    (h : v.store.events.fetch text = .error err) :
    Yields around (deleteEventById text) v (.error err) v :=
  .deleteById_error (fun _ => rfl) h

/-- An event that is there is deleted, and its readings stay. -/
theorem deleteEventById_ok {text : String} {e : EventRecord}
    (h : v.store.events.fetch text = .ok e) :
    Yields around (deleteEventById text) v (.ok ()) ⟨v.store.removeEvent e.id, v.taken⟩ :=
  .deleteById_ok (fun _ => rfl) h fun _ => rfl

/-- All readings and all events are deleted, and counted on the way. -/
theorem scrubAllEvents_yields :
    Yields around scrubAllEvents v
      (.ok (UInt64.ofNat v.store.events.list.length, UInt64.ofNat v.store.readings.list.length))
      ⟨v.store.removeReadings.removeEvents, v.taken⟩ := by
  have readings : Yields around (Action.call (.deleteAll .readings .all)) v
      (.ok (UInt64.ofNat v.store.readings.list.length)) ⟨v.store.removeReadings, v.taken⟩ :=
    .deleteAll fun n => Memory.deleteAll_empty (m := v.store.store n) (s := v.store.readings) rfl
  have events : Yields around (Action.call (.deleteAll .events .all))
      ⟨v.store.removeReadings, v.taken⟩ (.ok (UInt64.ofNat v.store.events.list.length))
      ⟨v.store.removeReadings.removeEvents, v.taken⟩ :=
    .deleteAll fun n =>
      Memory.deleteAll_empty (m := v.store.removeReadings.store n) (s := v.store.events) rfl
  exact readings.bind (events.bind (.pure _))

end Client

end Telemetry
