import Mathlib.Data.List.Forall2
import Telemetry.Memory
import Telemetry.Proofs.Filter

/-!
# Loading events from an open store

The readings of events are looked up in batches and collected in a map. `StoresReadings` says what a
table must be for that: every document carries the id it is stored under and is read as a reading.

* `exec_lookUpAll` — batch after batch collects the readings of all ids of the batches, by one call
  a batch.
* `exec_loadEvents` — where the batches end cannot be seen: a loaded event has the readings that its
  record names, each looked up in the table.
-/

namespace Telemetry

open Program

/-! ## Calls that change no table -/

/-- The world after some calls that change no table. Only the number of calls shows that there have
been any. -/
def World.called (w : World Memory) (k : Nat) : World Memory :=
  { w with store := { w.store with calls := w.store.calls + k } }

theorem World.called_called (w : World Memory) (k l : Nat) :
    (w.called k).called l = w.called (k + l) := by
  simp only [called, Nat.add_assoc]

@[simp] theorem World.table_called (w : World Memory) (k : Nat) (c : Collection) :
    (w.called k).store.table c = w.store.table c := by
  cases c <;> rfl

theorem Memory.whenOpen_of_open {α : Type} {m : Memory} (hopen : m.closed = false)
    (k : Memory → Except StoreError α × Memory) :
    m.whenOpen k = k { m with calls := m.calls + 1 } := by
  rw [whenOpen, hopen]
  rfl

section

variable (around : Surroundings) {w : World Memory} (hopen : w.store.closed = false)
  (c : Collection) (f : Filter)

include hopen

/-- A query on an open store answers with the documents of the table, and counts as one call. -/
theorem Action.exec_find (limit : Option UInt64) :
    exec Memory.backend around (call (.find c f limit)) w
      = (.ok (w.store.find c f limit), w.called 1) := by
  have hfind : { w.store with calls := w.store.calls + 1 }.find c f limit
      = w.store.find c f limit := by
    cases c <;> rfl
  refine (exec_call ..).trans ?_
  change ((w.store.whenOpen _).1, { w with store := (w.store.whenOpen _).2 }) = _
  rw [Memory.whenOpen_of_open hopen, hfind]
  rfl

end

/-! ## Tables of readings -/

/-- An entry of a table stores an entry of a map of readings if the keys are the same and the
document carries the key and is read as the reading. -/
def StoresReading (stored : ObjectId × Document) (read : ObjectId × Reading) : Prop :=
  stored.1 = read.1 ∧ stored.2.get? "id" = some (.string read.1.toHex) ∧ read.2.id = read.1 ∧
    stored.2.decode Reading.decoder = .ok read.2

/-- A table stores the readings of a map, entry by entry. The store has documents and the client has
readings; this relates the two. -/
def StoresReadings (t : Table) (m : OrderedMap ObjectId Reading) : Prop :=
  List.Forall₂ StoresReading t.entries m.entries

namespace StoresReadings

variable {t : Table} {m : OrderedMap ObjectId Reading}

/-- A reading is found under its own id. -/
theorem id_of_get? (h : StoresReadings t m) {k : ObjectId} {r : Reading}
    (hr : m.get? k = some r) : r.id = k := by
  have carries {stored : List (ObjectId × Document)} {read : List (ObjectId × Reading)}
      (h : List.Forall₂ StoresReading stored read) : ∀ e ∈ read, e.2.id = e.1 := by
    induction h with
    | nil => exact fun e he => absurd he List.not_mem_nil
    | cons hd _ ih =>
      intro e he
      rcases List.mem_cons.1 he with rfl | he
      · exact hd.2.2.1
      · exact ih e he
  exact carries h (k, r) (OrderedMap.mem_entries.2 hr)

/-- The documents with some of the ids are read as the readings with these ids. An id that is asked
for twice does not bring its reading twice. -/
theorem decodeAll_amongIds (h : StoresReadings t m) (ids : List ObjectId) :
    Document.decodeAll Reading.decoder (t.values.filter (Client.amongIds ids).holds)
      = .ok (m.filter fun r => r.id ∈ ids).values := by
  -- by induction on the stored documents and the readings they are read as, side by side
  have read {stored : List (ObjectId × Document)} {read : List (ObjectId × Reading)}
      (h : List.Forall₂ StoresReading stored read) :
      Document.decodeAll Reading.decoder
          ((stored.map (·.2)).filter (Client.amongIds ids).holds)
        = .ok ((read.map (·.2)).filter fun r => r.id ∈ ids) := by
    induction h with
    | nil => rfl
    | cons hd _ ih =>
      obtain ⟨-, hid, hkey, hread⟩ := hd
      rw [List.map_cons, List.map_cons, List.filter_cons, List.filter_cons,
        Filter.holds_amongIds hid ids, hkey]
      split
      · rw [Document.decodeAll, hread, ih]
        rfl
      · exact ih
  rw [OrderedMap.values_filter]
  exact read h

end StoresReadings

/-! ## Looking up -/

section

variable {m : OrderedMap ObjectId Reading} (hkey : ∀ k r, m.get? k = some r → r.id = k)

include hkey

/-- Collecting readings by their ids is writing the map they come from. -/
theorem collect_readings (found : OrderedMap ObjectId Reading) (p : Reading → Bool) :
    (m.filter p).values.foldl (fun found r => found.insert r.id r) found
      = found.insertAll (m.filter p) := by
  unfold OrderedMap.values OrderedMap.insertAll
  rw [List.foldl_map]
  refine List.foldl_ext _ _ _ fun found e he => ?_
  have hmem := OrderedMap.mem_entries.1 (List.mem_of_mem_filter he)
  rw [hkey e.1 e.2 hmem]

/-- Collecting twice is collecting the readings of all ids at once. So it makes no difference where
a list of ids is cut. -/
theorem insertAll_filter_ids (found : OrderedMap ObjectId Reading) (ids ids' : List ObjectId) :
    (found.insertAll (m.filter fun r => r.id ∈ ids)).insertAll (m.filter fun r => r.id ∈ ids')
      = found.insertAll (m.filter fun r => r.id ∈ ids ++ ids') := by
  refine OrderedMap.ext_get? fun k => ?_
  simp only [OrderedMap.get?_insertAll, OrderedMap.get?_filter]
  rcases hk : m.get? k with _ | r
  · rfl
  · obtain rfl := hkey k r hk
    by_cases h : r.id ∈ ids <;> by_cases h' : r.id ∈ ids' <;> simp [h, h', Option.filter]

/-- Only readings that some record names are collected, but a record asks for no others. What has
been collected for the other records does no harm. -/
theorem resolve_collected (records : List EventRecord) :
    records.map (Client.resolve
        (m.filter fun r => r.id ∈ records.flatMap EventRecord.readings))
      = records.map (Client.resolve m) := by
  refine List.map_congr_left fun e he => ?_
  refine congrArg e.toEvent (List.filterMap_congr fun k hk => ?_)
  rw [OrderedMap.get?_filter]
  rcases hr : m.get? k with _ | r
  · rfl
  · obtain rfl := hkey k r hr
    exact Option.filter_some_pos (decide_eq_true (List.mem_flatMap.2 ⟨e, he, hk⟩))

end

section

variable (around : Surroundings) {w : World Memory} {m : OrderedMap ObjectId Reading}
  (hopen : w.store.closed = false) (hm : StoresReadings (w.store.table .readings) m)

include hopen hm

/-- A batch is answered with the readings under its ids, by one call. -/
theorem exec_lookUp (ids : List ObjectId) :
    exec Memory.backend around (Client.lookUp ids) w
      = (.ok (m.filter fun r => r.id ∈ ids).values, w.called 1) := by
  rw [Client.lookUp, exec_bind, Action.exec_find around hopen]
  change (Document.decodeAll _ ((w.store.table .readings).values.filter _), w.called 1) = _
  rw [hm.decodeAll_amongIds]

/-- One call a batch collects the readings of all ids of the batches. How the ids have been cut into
batches does not show. -/
theorem exec_lookUpAll (batches : List (List ObjectId)) (found : OrderedMap ObjectId Reading) :
    exec Memory.backend around (Client.lookUpAll found batches) w
      = (.ok (found.insertAll (m.filter fun r => r.id ∈ batches.flatten)),
          w.called batches.length) := by
  have hkey := fun k r => hm.id_of_get? (k := k) (r := r)
  -- each batch starts from another world and with more readings found
  induction batches generalizing w found with
  | nil =>
    have none : m.filter (fun r => decide (r.id ∈ ([] : List (List ObjectId)).flatten)) = ∅ := by
      refine OrderedMap.ext_get? fun k => ?_
      rw [OrderedMap.get?_filter]
      cases m.get? k <;> rfl
    rw [none]
    rfl
  | cons batch batches ih =>
    rw [Client.lookUpAll, exec_bind, exec_lookUp around hopen hm]
    have rest := ih (w := w.called 1) hopen (by rwa [World.table_called])
    dsimp only
    rw [rest, collect_readings hkey, insertAll_filter_ids hkey, World.called_called,
      List.flatten_cons, List.length_cons, Nat.add_comm 1]

/-- A loaded event has the readings that its record names, each looked up in the table; a name
whose reading is gone is passed over. -/
theorem exec_loadEvents {docs : List Document} {records : List EventRecord}
    (hdocs : Document.decodeAll EventRecord.decoder docs = .ok records) :
    exec Memory.backend around (Client.loadEvents docs) w
      = (.ok (records.map (Client.resolve m)),
          w.called (chunks Client.lookupBatch (records.flatMap EventRecord.readings)).length) := by
  rw [Client.loadEvents, exec_bind, Action.exec_ofExcept, hdocs]
  dsimp only
  rw [exec_bind, exec_lookUpAll around hopen hm, flatten_chunks (by decide),
    OrderedMap.empty_insertAll]
  change (Except.ok (records.map _), _) = _
  rw [resolve_collected fun k r => hm.id_of_get?]

end

end Telemetry
