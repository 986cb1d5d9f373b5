import Telemetry.Proofs.Client.Runs

/-!
# An update leaves the readings of an event alone

The event of an update has readings of its own, whatever they are. They are taken out of the fields
before these are set, so that the stored record keeps its references, and with them the readings
that the event is loaded with.

* `EventUpdated` — all that an update changes, and what it leaves.
* `update_keeps_readings` — what an update does in every open store that requests reach, for a
  stored event and for a missing one, and that a second update changes nothing more.
-/

namespace Telemetry

open Client Program
open Telemetry.Action (Yields)

/-- Worlds that differ at most in the number of calls that the store has taken up. A second update
is counted, so nothing more can be the same after it. -/
structure SameContent (w w' : World Memory) : Prop where
  store : ∃ calls, w'.store = { w.store with calls := calls }
  taken : w'.taken = w.taken

theorem World.sameContent_storing (v : World Catalogue) (n n' : Nat) :
    SameContent (v.storing n) (v.storing n') :=
  ⟨⟨n', rfl⟩, rfl⟩

/-- An action that leaves what it has left before changes nothing the second time. The calls are
counted once more, which is why the content is compared and not the store. -/
theorem SameContent.of_again {α : Type} {around : Surroundings} {a : Action α}
    {v v' : World Catalogue} {r r' : Except StoreError α} (h : Yields around a v r v')
    (h' : Yields around a v' r' v') (n : Nat) :
    SameContent (exec Memory.backend around a (v.storing n)).2
      (exec Memory.backend around a (exec Memory.backend around a (v.storing n)).2).2 := by
  obtain ⟨n', hrun⟩ := h n
  obtain ⟨n'', hagain⟩ := h' n'
  rw [hrun, hagain]
  exact v'.sameContent_storing n' n''

/-- Putting an entity twice is putting it once. -/
theorem Keyed.put_put {α : Type} [Entity α] (s : Keyed α) (a : α) : (s.put a).put a = s.put a := by
  refine ext_get? fun k => ?_
  rw [get?_put, get?_put]
  split <;> rfl

/-- What the update by the event `e` does to the store of `w`, in which the record `old` is stored
under its id. -/
structure EventUpdated (around : Surroundings) (e : Event) (old : EventRecord)
    (w w' : World Memory) : Prop where
  before : (w.store.table .events).get? e.id = some old.toDocument
  /-- the fields are those of `e`, the time is the present; the id and the references stay -/
  stored : (w'.store.table .events).get? e.id
    = some (EventRecord.mk old.id e.pushed e.device e.created around.now e.origin
        old.readings).toDocument
  id : old.id = e.id
  /-- the event is loaded with the readings that it was loaded with before -/
  found : ∃ readings, ∀ around',
    (exec Memory.backend around' (eventById e.id.toHex) w).1 = .ok (old.toEvent readings) ∧
    (exec Memory.backend around' (eventById e.id.toHex) w').1
      = .ok { e with modified := around.now, readings := readings }
  others : ∀ k, k ≠ e.id → (w'.store.table .events).get? k = (w.store.table .events).get? k
  readings : w'.store.readings = w.store.readings
  valueDescriptors : w'.store.valueDescriptors = w.store.valueDescriptors

section

variable {around : Surroundings} {v : World Catalogue} {e : Event} {old : EventRecord}
  (h : v.store.events.get? e.id = some old)

/-- The world with the record that an update leaves. -/
def eventUpdated (around : Surroundings) (v : World Catalogue) (e : Event) (old : EventRecord) :
    World Catalogue :=
  ⟨v.store.putEvent (updated old { e with modified := around.now }), v.taken⟩

include h

/-- The changed event is under its id, and the others where they were. -/
theorem get?_eventUpdated (around : Surroundings) (k : ObjectId) :
    (eventUpdated around v e old).store.events.get? k
      = if k = e.id then some (updated old { e with modified := around.now })
        else v.store.events.get? k := by
  have hid : old.id = e.id := Keyed.id_of_get? h
  have hput := Keyed.get?_put v.store.events (updated old { e with modified := around.now }) k
  rw [← hid]
  exact hput

/-- All that is promised of an event that is changed, from the store as it is before and after. -/
theorem eventUpdated_storing (n n' : Nat) :
    EventUpdated around e old (v.storing n) ((eventUpdated around v e old).storing n') where
  before := (Keyed.get?_table ..).trans (congrArg (Option.map _) h)
  stored := by
    have hget := (get?_eventUpdated h around e.id).trans (if_pos rfl)
    exact (Keyed.get?_table ..).trans (congrArg (Option.map _) hget)
  id := Keyed.id_of_get? h
  found := by
    -- the readings are not touched, so the same references find the same ones before and after
    refine ⟨old.readings.filterMap v.store.readings.get?, fun around' => ⟨?_, ?_⟩⟩
    · have before : Yields around' (eventById e.id.toHex) v (.ok (v.store.event old)) v :=
        eventById_stored h
      obtain ⟨m, hrun⟩ := before n
      rw [hrun]
      rfl
    · have hget := (get?_eventUpdated h around e.id).trans (if_pos rfl)
      have after : Yields around' (eventById e.id.toHex) (eventUpdated around v e old) (.ok _)
          (eventUpdated around v e old) := eventById_stored hget
      obtain ⟨m, hrun⟩ := after n'
      have hid : old.id = e.id := Keyed.id_of_get? h
      rw [hrun]
      change Except.ok (Event.mk old.id ..) = _
      rw [hid]
      rfl
  others k hk := by
    have hget := (get?_eventUpdated h around k).trans (if_neg hk)
    refine (Keyed.get?_table ..).trans (Eq.trans (congrArg (Option.map _) hget) ?_)
    exact (Keyed.get?_table ..).symm
  readings := rfl
  valueDescriptors := rfl

/-- Doing the update again at the same time leaves the same catalogue. At a later time it would
leave another time of the change. -/
theorem updateEvent_again :
    Yields around (updateEvent e) (eventUpdated around v e old) (.ok ())
      (eventUpdated around v e old) := by
  have hget := (get?_eventUpdated h around e.id).trans (if_pos rfl)
  have again : Yields around (updateEvent e) (eventUpdated around v e old) (.ok ()) _ :=
    updateEvent_stored hget
  have same : (eventUpdated around v e old).store.putEvent
      (updated (updated old { e with modified := around.now }) { e with modified := around.now })
        = (eventUpdated around v e old).store :=
    congrArg (fun events => { v.store with events := events }) (v.store.events.put_put _)
  rwa [same] at again

end

/-- **An update keeps the readings**: in every open store that requests reach, an update changes the
fields of a stored event and nothing else, whatever readings it is given. It fails without a trace
if the event is missing, and changes nothing more if it is made twice at one time. -/
theorem update_keeps_readings {fresh : Nat → ObjectId} {w : World Memory} (h : Reachable fresh w)
    (hopen : w.store.closed = false) (around : Surroundings) (e : Event) :
    ((∃ d, (w.store.table .events).get? e.id = some d) →
      ∃ old w', exec Memory.backend around (updateEvent e) w = (.ok (), w') ∧
        EventUpdated around e old w w') ∧
    ((w.store.table .events).get? e.id = none →
      ∃ w', exec Memory.backend around (updateEvent e) w = (.error .notFound, w') ∧
        SameContent w w') ∧
    SameContent (exec Memory.backend around (updateEvent e) w).2
      (exec Memory.backend around (updateEvent e)
        (exec Memory.backend around (updateEvent e) w).2).2 := by
  obtain ⟨c, hc⟩ := h.holds
  obtain ⟨n, hw⟩ := hc.storing hopen
  obtain ⟨m, taken⟩ := w
  obtain rfl : m = c.store n := congrArg World.store hw
  have table : ((c.store n).table .events).get? e.id
      = (c.events.get? e.id).map EventRecord.toDocument := Keyed.get?_table ..
  dsimp only
  rw [table]
  cases hget : c.events.get? e.id with
  | none =>
    have missing : Yields around (updateEvent e) ⟨c, taken⟩ (.error .notFound) ⟨c, taken⟩ :=
      updateEvent_missing hget
    obtain ⟨n', hrun⟩ := missing n
    refine ⟨fun ⟨d, hd⟩ => absurd hd nofun, fun _ => ?_, .of_again missing missing n⟩
    exact ⟨_, hrun, World.sameContent_storing ⟨c, taken⟩ n n'⟩
  | some old =>
    have updates : Yields around (updateEvent e) ⟨c, taken⟩ (.ok ())
        (eventUpdated around ⟨c, taken⟩ e old) := updateEvent_stored hget
    obtain ⟨n', hrun⟩ := updates n
    refine ⟨fun _ => ?_, fun hnone => absurd hnone nofun,
      .of_again updates (updateEvent_again hget) n⟩
    exact ⟨old, _, hrun, eventUpdated_storing (v := ⟨c, taken⟩) hget n n'⟩

/-- The stored event of a run is updated by one without readings. -/
theorem update_keeps_readings_of_boiler :
    let e : Event := { Event.new "kettle" [] with id := .numbered 0, pushed := 11 }
    Reachable .numbered eventWorld ∧ eventWorld.store.closed = false ∧
      ∃ old w', exec Memory.backend ⟨12, .numbered⟩ (updateEvent e) eventWorld = (.ok (), w') ∧
        EventUpdated ⟨12, .numbered⟩ e old eventWorld w' := by
  intro e
  have stored : ∃ d, (eventWorld.store.table .events).get? e.id = some d := by
    obtain ⟨n, hw⟩ := eventWorld_standsFor
    rw [hw]
    exact ⟨_, rfl⟩
  exact ⟨reachable_eventWorld, eventWorld_standsFor.isOpen,
    (update_keeps_readings reachable_eventWorld eventWorld_standsFor.isOpen ⟨12, .numbered⟩ e).1 stored⟩

end Telemetry
