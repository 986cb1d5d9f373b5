import Telemetry.Proofs.Client.Runs

/-!
# An added event comes back whole

Adding stamps an event, takes it apart into a record and readings, and stores these in two
collections. Loading looks the readings up in batches and puts the event together again. Whatever
the number of readings is, what comes back is the event as it was stamped, its readings in the order
of the caller.

* `eventById_added` — the event that comes back.
* `added_event_whole` — all that adding an event does, in every open store that requests reach.
-/

namespace Telemetry

open Client Program
open Telemetry.Action (Yields)

/-! ## Catalogues with new entities -/

namespace Keyed

variable {α : Type} [Entity α] {s : Keyed α}

/-- Looking up entities by their ids gives them in the order of the ids. -/
theorem filterMap_get?_putAll {as : List α} (hn : (as.map Entity.id).Nodup) :
    (as.map Entity.id).filterMap (s.putAll as).get? = as := by
  rw [List.filterMap_map]
  have found : ∀ a ∈ as, ((s.putAll as).get? ∘ Entity.id) a = some a :=
    fun a ha => get?_putAll_of_mem s hn a ha
  rw [List.filterMap_congr found, List.filterMap_some]

/-- Putting entities under new ids changes nothing that is stored. -/
theorem get?_putAll_of_new {as : List α} (hnew : ∀ a ∈ as, s.get? (Entity.id a) = none)
    {k : ObjectId} {b : α} (hb : s.get? k = some b) : (s.putAll as).get? k = some b := by
  rw [get?_putAll_of_notMem, hb]
  intro hk
  obtain ⟨a, ha, rfl⟩ := List.mem_map.1 hk
  rw [hnew a ha] at hb
  cases hb

/-- The tables then keep their documents. -/
theorem table_putAll_of_new {as : List α} (hnew : ∀ a ∈ as, s.get? (Entity.id a) = none)
    {k : ObjectId} {d : Document} (hd : s.table.get? k = some d) :
    (s.putAll as).table.get? k = some d := by
  rw [get?_table, Option.map_eq_some_iff] at hd ⊢
  obtain ⟨b, hb, rfl⟩ := hd
  exact ⟨b, get?_putAll_of_new hnew hb, rfl⟩

theorem get?_eq_none_of_table {k : ObjectId} (h : s.table.get? k = none) : s.get? k = none := by
  rwa [get?_table, Option.map_eq_none_iff] at h

end Keyed

/-! ## The world after adding -/

section

variable {around : Surroundings} {v : World Catalogue} {e : Event}

/-- In the catalogue the record of a stamped event stands for that event. -/
theorem event_added (hids : ((stamped around v.taken e).readings.map Reading.id).Nodup) :
    (eventAdded around v e).store.event (stamped around v.taken e).toRecord
      = stamped around v.taken e := by
  refine Eq.trans ?_ (stamped around v.taken e).toRecord_toEvent
  exact congrArg (stamped around v.taken e).toRecord.toEvent
    (Keyed.filterMap_get?_putAll (α := Reading) hids)

/-- The event comes back as it was stamped. -/
theorem eventById_added (hids : ((stamped around v.taken e).readings.map Reading.id).Nodup)
    (around' : Surroundings) :
    Yields around' (eventById (stamped around v.taken e).id.toHex) (eventAdded around v e)
      (.ok (stamped around v.taken e)) (eventAdded around v e) := by
  have record : (eventAdded around v e).store.events.get? (stamped around v.taken e).id
      = some (stamped around v.taken e).toRecord :=
    (Keyed.get?_put v.store.events (stamped around v.taken e).toRecord _).trans (if_pos rfl)
  have found : Yields around' (eventById (stamped around v.taken e).id.toHex)
      (eventAdded around v e)
      (.ok ((eventAdded around v e).store.event (stamped around v.taken e).toRecord))
      (eventAdded around v e) := eventById_stored record
  rwa [event_added hids] at found

end

/-! ## Adding in a run -/

/-- What adding the event `e` to the store of `w` does: `added` is the event as it stands then, with
the ids and times that it has been given. -/
structure EventAdded (around : Surroundings) (e : Event) (w : World Memory) (added : Event)
    (w' : World Memory) : Prop where
  /-- its own fields are those of `e` but for the id and the time -/
  fields : added = { e with
    id := added.id, created := around.now, readings := added.readings }
  /-- so are those of its readings, which also have its device -/
  readings : List.Forall₂
    (fun given r => r = { given with id := r.id, created := around.now, device := e.device })
    e.readings added.readings
  /-- the event and each of its readings have an id of their own, in the order of taking -/
  ids : added.id :: added.readings.map Reading.id
    = (List.range (e.readings.length + 1)).map fun i => around.fresh (w.taken + i)
  distinct : (added.id :: added.readings.map Reading.id).Nodup
  /-- the event is found whole -/
  found : ∀ around', (exec Memory.backend around' (eventById added.id.toHex) w').1 = .ok added
  /-- its readings are found one by one -/
  stored : ∀ r ∈ added.readings, (w'.store.table .readings).get? r.id = some r.toDocument
  /-- what was stored before is unchanged -/
  kept : ∀ c k d, (w.store.table c).get? k = some d → (w'.store.table c).get? k = some d

section

variable {around : Surroundings} {v : World Catalogue} {e : Event}
  (hids : ((stamped around v.taken e).id ::
    (stamped around v.taken e).readings.map Reading.id).Nodup)
  (hreadings : ∀ r ∈ (stamped around v.taken e).readings, v.store.readings.get? r.id = none)
  (hevent : v.store.events.get? (around.fresh v.taken) = none)

include hids hreadings hevent

/-- All that is promised of an event that is added, from the store as it is before and after. The
ids are new, so nothing that is there is written over. -/
theorem eventAdded_storing (n n' : Nat) :
    EventAdded around e (v.storing n) (stamped around v.taken e)
      ((eventAdded around v e).storing n') where
  fields := rfl
  readings := by
    refine List.forall₂_iff_get.2 ⟨List.length_mapIdx.symm, fun i hi hi' => ?_⟩
    simp [stamped]
  ids := by
    rw [stamped_ids, List.range_succ_eq_map, List.map_cons, List.map_map]
    refine congrArg _ (List.map_congr_left fun i _ => ?_)
    change around.fresh (v.taken + 1 + i) = around.fresh (v.taken + (i + 1))
    rw [Nat.add_assoc, Nat.add_comm 1]
  distinct := hids
  found around' := by
    obtain ⟨n'', hrun⟩ := eventById_added (List.nodup_cons.1 hids).2 around' n'
    rw [hrun]
  stored r hr := by
    have hget := Keyed.get?_putAll_of_mem v.store.readings (List.nodup_cons.1 hids).2 r hr
    exact (Keyed.get?_table ..).trans (congrArg (Option.map _) hget)
  kept c k d hd := by
    cases c with
    | events =>
      -- the record is the only one that is put, and its id is new
      have new : ∀ a ∈ [(stamped around v.taken e).toRecord],
          v.store.events.get? (Entity.id a) = none := by
        intro a ha
        rw [List.mem_singleton.1 ha]
        exact hevent
      exact Keyed.table_putAll_of_new new hd
    | readings => exact Keyed.table_putAll_of_new hreadings hd
    | valueDescriptors => exact hd

end

/-- **An added event is whole**: in every open store that requests reach, an event is added if the
ids that are taken next differ and are new to the store. It is found again with the same readings in
the same order, each of them is found by itself, and no document that was there before is changed.
-/
theorem added_event_whole {fresh : Nat → ObjectId} {w : World Memory} (h : Reachable fresh w)
    (hopen : w.store.closed = false) (around : Surroundings) (e : Event)
    (hdistinct : ∀ i j, i ≤ e.readings.length → j ≤ e.readings.length →
      around.fresh (w.taken + i) = around.fresh (w.taken + j) → i = j)
    (hnew : ∀ i ≤ e.readings.length, ∀ c,
      (w.store.table c).get? (around.fresh (w.taken + i)) = none) :
    ∃ added w', (addEvent e).run Memory.backend around w = ((added, .ok added.id), w') ∧
      EventAdded around e w added w' := by
  obtain ⟨c, hc⟩ := h.holds
  obtain ⟨n, hw⟩ := hc.storing hopen
  obtain ⟨m, taken⟩ := w
  obtain rfl : m = c.store n := congrArg World.store hw
  have hreadings : ∀ r ∈ (stamped around taken e).readings, c.readings.get? r.id = none := by
    intro r hr
    obtain ⟨i, hi, hid⟩ := id_of_mem_stamped hr
    rw [hid, Nat.add_assoc]
    exact Keyed.get?_eq_none_of_table (hnew (1 + i) (by omega) .readings)
  have hevent : c.events.get? (around.fresh taken) = none :=
    Keyed.get?_eq_none_of_table (hnew 0 (Nat.zero_le _) .events)
  -- the event takes the first id and its readings the ones after it, so all are of one sequence
  have hids : ((stamped around taken e).id ::
      (stamped around taken e).readings.map Reading.id).Nodup := by
    refine List.nodup_cons.2 ⟨fun hmem => ?_, stamped_ids_nodup fun i hi j hj he => ?_⟩
    · obtain ⟨r, hr, hid⟩ := List.mem_map.1 hmem
      obtain ⟨i, hi, hid'⟩ := id_of_mem_stamped hr
      rw [hid', Nat.add_assoc] at hid
      have := hdistinct (1 + i) 0 (by omega) (Nat.zero_le _) hid
      omega
    · rw [Nat.add_assoc, Nat.add_assoc] at he
      have := hdistinct (1 + i) (1 + j) (by omega) (by omega) he
      omega
  obtain ⟨n', hrun⟩ := addEvent_new (v := ⟨c, taken⟩) (List.nodup_cons.1 hids).2 hreadings hevent n
  exact ⟨_, _, hrun, eventAdded_storing (v := ⟨c, taken⟩) hids hreadings hevent n n'⟩

/-- The event with two readings is added to the store of the first run. -/
theorem added_event_whole_of_two :
    ∃ added w', (addEvent (.new "boiler" [.new "temperature" "71", .new "humidity" "40"])).run
        Memory.backend ⟨9, .numbered⟩ firstWorld = ((added, .ok added.id), w') ∧
      EventAdded ⟨9, .numbered⟩ (.new "boiler" [.new "temperature" "71", .new "humidity" "40"])
        firstWorld added w' := by
  obtain ⟨c, hc⟩ := reachable_firstWorld.holds
  have taken : firstWorld.taken = 1 := firstWorld_standsFor.taken_eq
  refine added_event_whole reachable_firstWorld firstWorld_standsFor.isOpen ⟨9, .numbered⟩ _
    (fun i j hi hj he => ?_) fun i hi collection => ?_
  · change i ≤ 2 at hi
    change j ≤ 2 at hj
    rw [taken] at he
    have := distinct_numbered (n := 4) (by decide) (1 + i) (1 + j) (by omega) (by omega) he
    omega
  · change i ≤ 2 at hi
    rw [taken]
    refine hc.get?_of_not_has (hc.2.new (distinct_numbered (n := 4) (by decide)) ?_ (by omega)) _
    change firstWorld.taken ≤ 1 + i
    rw [taken]
    omega

end Telemetry
