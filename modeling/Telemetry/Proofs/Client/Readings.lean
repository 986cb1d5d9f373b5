import Telemetry.Client.Readings
import Telemetry.Proofs.Client.Yields

/-!
# What the operations on readings do

One judgement for each operation: the queries list the readings with a property, adding and changing
put a reading, deleting removes one.
-/

namespace Telemetry

open Client
open Telemetry.Action (Yields)

namespace Reading

/-! ## The conditions that are asked of readings -/

/-- The filter for a device selects the readings of the device. The lemmas after this one say the
same of the other conditions. -/
theorem holds_device (r : Reading) (device : String) :
    (Filter.eq "device" (.string device)).holds r.toDocument = decide (r.device = device) := by
  refine Filter.holds_eq_string ?_ device
  simp [get?_toDocument, fields, OrderedMap.lookup]

theorem holds_name (r : Reading) (name : String) :
    (Filter.eq "name" (.string name)).holds r.toDocument = decide (r.name = name) := by
  refine Filter.holds_eq_string ?_ name
  simp [get?_toDocument, fields, OrderedMap.lookup]

theorem holds_names (r : Reading) (names : List String) :
    (Filter.among "name" (names.map .string)).holds r.toDocument = decide (r.name ∈ names) := by
  refine Filter.holds_among_strings ?_ names
  simp [get?_toDocument, fields, OrderedMap.lookup]

/-- The filter for a span of time selects the readings created in it, both ends included. -/
theorem holds_created (r : Reading) (start stop : Timestamp) :
    (Filter.range "created" (.included start) (.included stop)).holds r.toDocument
      = decide (start ≤ r.created ∧ r.created ≤ stop) := by
  rw [Filter.holds_range_int64 (n := r.created), Bool.decide_and]
  · rfl
  · simp [get?_toDocument, fields, OrderedMap.lookup]

end Reading

namespace Client

variable {around : Surroundings} {v : World Catalogue}

/-! ## Queries -/

theorem readings_yields : Yields around readings v (.ok v.store.readings.list) v :=
  (Yields.findAll (s := v.store.readings) fun _ => rfl).bind (.decodeAll _)

/-- The readings are counted. The count is a word, so it is the number only as far as a word goes.
-/
theorem readingCount_yields :
    Yields around readingCount v (.ok (UInt64.ofNat v.store.readings.list.length)) v :=
  Yields.countAll fun _ => rfl

theorem readingById_yields (text : String) :
    Yields around (readingById text) v (v.store.readings.fetch text) v := by
  have found : Yields around (readingById text) v ((v.store.readings.fetch text).map id) v :=
    Yields.fetch (s := v.store.readings) (fun _ => rfl) text .decode
  rwa [Except.map_id] at found

theorem getReadingsLimit_yields {f : Filter} {p : Reading → Bool}
    (hf : ∀ r : Reading, f.holds r.toDocument = p r) (limit : UInt64) :
    Yields around (getReadingsLimit f limit) v
      (.ok ((v.store.readings.list.filter p).take limit.toNat)) v :=
  (Yields.findLimit (s := v.store.readings) (fun _ => rfl) hf limit).bind (.decodeAll _)

theorem readingsByDevice_yields (device : String) (limit : UInt64) :
    Yields around (readingsByDevice device limit) v
      (.ok ((v.store.readings.list.filter fun r => r.device = device).take limit.toNat)) v :=
  getReadingsLimit_yields (fun r => r.holds_device device) limit

theorem readingsByValueDescriptor_yields (name : String) (limit : UInt64) :
    Yields around (readingsByValueDescriptor name limit) v
      (.ok ((v.store.readings.list.filter fun r => r.name = name).take limit.toNat)) v :=
  getReadingsLimit_yields (fun r => r.holds_name name) limit

/-- The first readings that have one of the names are listed. No reading comes twice, even if its
name does. -/
theorem readingsByValueDescriptorNames_yields (names : List String) (limit : UInt64) :
    Yields around (readingsByValueDescriptorNames names limit) v
      (.ok ((v.store.readings.list.filter fun r => r.name ∈ names).take limit.toNat)) v :=
  getReadingsLimit_yields (fun r => r.holds_names names) limit

theorem readingsByCreationTime_yields (start stop : Timestamp) (limit : UInt64) :
    Yields around (readingsByCreationTime start stop limit) v
      (.ok ((v.store.readings.list.filter fun r => start ≤ r.created ∧ r.created ≤ stop).take
        limit.toNat)) v :=
  getReadingsLimit_yields (fun r => r.holds_created start stop) limit

/-- The first readings of a device and a name are listed. -/
theorem readingsByDeviceAndValueDescriptor_yields (device name : String) (limit : UInt64) :
    Yields around (readingsByDeviceAndValueDescriptor device name limit) v
      (.ok ((v.store.readings.list.filter fun r => r.device = device ∧ r.name = name).take
        limit.toNat)) v := by
  refine getReadingsLimit_yields (fun r => ?_) limit
  rw [Filter.holds_also, r.holds_device, r.holds_name, Bool.decide_and]

/-! ## Writes -/

/-- A reading with a new id is put under that id. -/
theorem addReading_yields (r : Reading)
    (hnew : v.store.readings.get? (around.fresh v.taken) = none) :
    Yields around (addReading r) v (.ok (around.fresh v.taken))
      ⟨v.store.putReadings [{ r with id := around.fresh v.taken, created := around.now }],
        v.taken + 1⟩ := by
  refine Yields.takeId.bind (Yields.clock.bind (Yields.bind (x := ()) ?_ (.pure _)))
  refine .insert fun n => ?_
  exact Memory.insert_put (m := v.store.store n) (s := v.store.readings)
    (a := { r with id := around.fresh v.taken, created := around.now }) rfl rfl hnew

theorem updateReading_missing {r : Reading} (h : v.store.readings.get? r.id = none) :
    Yields around (updateReading r) v (.error .notFound) v :=
  Yields.clock.bind (.update fun n =>
    Memory.update_missing (m := v.store.store n) (s := v.store.readings) rfl h _)

/-- A stored reading is replaced by the one at hand. -/
theorem updateReading_stored {r old : Reading} (h : v.store.readings.get? r.id = some old) :
    Yields around (updateReading r) v (.ok ())
      ⟨v.store.putReadings [{ r with modified := around.now }], v.taken⟩ :=
  Yields.clock.bind (.update fun n =>
    Memory.update_put (m := v.store.store n) (s := v.store.readings)
      (b := { r with modified := around.now }) rfl h rfl (Entity.withId_id (α := Reading) _) rfl)

theorem deleteReadingById_error {text : String} {e : StoreError}
    (h : v.store.readings.fetch text = .error e) :
    Yields around (deleteReadingById text) v (.error e) v :=
  .deleteById_error (fun _ => rfl) h

/-- A reading that is there is deleted, and nothing else is touched. -/
theorem deleteReadingById_ok {text : String} {r : Reading}
    (h : v.store.readings.fetch text = .ok r) :
    Yields around (deleteReadingById text) v (.ok ())
      ⟨v.store.removeReading r.id, v.taken⟩ :=
  .deleteById_ok (fun _ => rfl) h fun _ => rfl

end Client

end Telemetry
