import Telemetry.Proofs.Client.Readings
import Telemetry.Proofs.Client.UpdatedEvents

/-!
# A change of a reading shows in the events that name it

An event is stored without its readings, and these are looked up whenever it is loaded. So a change
of one reading is seen in every event that names it, at each place where it does, though no event
is touched; and the deletion of an event is seen in no reading and in no other event.

* `EventsShow` — what all queries of events answer after a change of their readings.
* `DecidedBy` — how a change of one document ends: if the document is stored it has its effect and
  leaves all else, if not it fails and leaves everything.
* `one_change_shows` — both for the three changes, in every open store that requests reach.
-/

namespace Telemetry

open Client Program
open Telemetry.Action (Yields)

/-! ## Two worlds compared

A change is described by what has become of each query, for the world before and the world after.
What a query has answered before need not be known for this. -/

/-- An action succeeds in two worlds at every time, and answers `g` of the first answer in the
second world. -/
def Becomes {α : Type} (w w' : World Memory) (a : Action α) (g : α → α) : Prop :=
  ∀ around, ∃ x, (exec Memory.backend around a w).1 = .ok x ∧
    (exec Memory.backend around a w').1 = .ok (g x)

/-- Two worlds have the same documents but for one, are open alike and have taken as many ids. Only
the number of calls may differ beside that document. -/
structure SameBut (c : Collection) (k : ObjectId) (w w' : World Memory) : Prop where
  documents : ∀ k', k' ≠ k → (w'.store.table c).get? k' = (w.store.table c).get? k'
  tables : ∀ c', c' ≠ c → w'.store.table c' = w.store.table c'
  closed : w'.store.closed = w.store.closed
  taken : w'.taken = w.taken

/-- An event with other readings. -/
def Event.withReadings (g : List Reading → List Reading) (e : Event) : Event :=
  { e with readings := g e.readings }

/-- Every query of events answers with the events that it answered with before, in the same order;
only the readings of each have been changed by `g`. -/
structure EventsShow (g : List Reading → List Reading) (w w' : World Memory) : Prop where
  events : Becomes w w' events (List.map (.withReadings g))
  eventById : ∀ k d text, (w.store.table .events).get? k = some d →
    ObjectId.parse? text = some k → Becomes w w' (eventById text) (.withReadings g)
  eventsForDevice : ∀ device,
    Becomes w w' (eventsForDevice device) (List.map (.withReadings g))
  eventsForDeviceLimit : ∀ device limit,
    Becomes w w' (eventsForDeviceLimit device limit) (List.map (.withReadings g))
  eventsByCreationTime : ∀ start stop limit,
    Becomes w w' (eventsByCreationTime start stop limit) (List.map (.withReadings g))
  eventsOlderThanAge : ∀ age,
    Becomes w w' (eventsOlderThanAge age) (List.map (.withReadings g))
  eventsPushed : Becomes w w' eventsPushed (List.map (.withReadings g))

/-- How an action on the document under an id ends: if there is one it succeeds with some effect,
if not it is told so and changes nothing. -/
structure DecidedBy (around : Surroundings) (a : Action Unit) (c : Collection) (k : ObjectId)
    (w : World Memory) (effect : World Memory → Prop) : Prop where
  stored : ∀ d, (w.store.table c).get? k = some d →
    ∃ w', exec Memory.backend around a w = (.ok (), w') ∧ SameBut c k w w' ∧ effect w'
  missing : (w.store.table c).get? k = none →
    ∃ w', exec Memory.backend around a w = (.error .notFound, w') ∧ SameContent w w'

/-! ## Catalogues compared -/

namespace Keyed

variable {α : Type} [Entity α] {s : Keyed α}

/-- Looking up after a removal is looking up and passing over the removed entity. The others come in
the same order as before. -/
theorem filterMap_remove (s : Keyed α) (k : ObjectId) (ids : List ObjectId) :
    ids.filterMap (s.remove k).get?
      = (ids.filterMap s.get?).filter fun a => Entity.id a ≠ k := by
  rw [List.filter_filterMap]
  refine List.filterMap_congr fun j _ => ?_
  rw [get?_remove]
  rcases hj : s.get? j with _ | a
  · simp
  · obtain rfl := id_of_get? hj
    by_cases h : Entity.id a = k <;> simp [h, Option.filter]

/-- Looking up after a change is looking up and taking the new entity for the old one, in the same
place and as often. -/
theorem filterMap_put {b old : α} (h : s.get? (Entity.id b) = some old) (ids : List ObjectId) :
    ids.filterMap (s.put b).get?
      = (ids.filterMap s.get?).map fun a => if Entity.id a = Entity.id b then b else a := by
  rw [List.map_filterMap]
  refine List.filterMap_congr fun j _ => ?_
  rw [get?_put]
  rcases hj : s.get? j with _ | a
  · have hne : j ≠ Entity.id b := fun he => by
      rw [he, h] at hj
      cases hj
    simp [hne]
  · obtain rfl := id_of_get? hj
    by_cases h : Entity.id a = Entity.id b <;> simp [h]

/-- Taking an entity away takes it out of the list, and the others keep their order. -/
theorem list_remove (s : Keyed α) (k : ObjectId) :
    (s.remove k).list = s.list.filter fun a => Entity.id a ≠ k := by
  have kept : s.byId.entries.filter (fun e => compare k e.1 != .eq)
      = s.byId.entries.filter fun e => Entity.id e.2 ≠ k := by
    refine List.filter_congr fun e he => ?_
    rw [s.keyed e.1 e.2 (OrderedMap.mem_entries.1 he), Bool.eq_iff_iff, bne_iff_ne,
      decide_eq_true_iff, ne_eq, Std.LawfulEqCmp.compare_eq_iff_eq]
    exact not_congr eq_comm
  change (s.byId.entries.filter _).map _ = (s.byId.entries.map (·.2)).filter _
  rw [kept, List.filter_map]
  rfl

end Keyed

/-! ## What the queries answer -/

section

variable {v v' : World Catalogue}

/-- Answers that are known on both sides are compared as they stand, in every surroundings. -/
theorem Becomes.of_yields {α : Type} {a : Action α} {g : α → α} {x : Surroundings → α}
    (h : ∀ around, Yields around a v (.ok (x around)) v)
    (h' : ∀ around, Yields around a v' (.ok (g (x around))) v') (n n' : Nat) :
    Becomes (v.storing n) (v'.storing n') a g := by
  intro around
  obtain ⟨m, hrun⟩ := h around n
  obtain ⟨m', hrun'⟩ := h' around n'
  rw [hrun, hrun']
  exact ⟨x around, rfl, rfl⟩

/-- A stored event is found by every text of its id. -/
theorem eventById_text {around : Surroundings} {k : ObjectId} {e : EventRecord} {text : String}
    (h : v.store.events.get? k = some e) (hp : ObjectId.parse? text = some k) :
    Yields around (eventById text) v (.ok (v.store.event e)) v := by
  have found : Yields around (eventById text) v
      ((v.store.events.fetch text).map v.store.event) v := eventById_yields text
  rw [Keyed.fetch_of_parse hp, h] at found
  exact found

/-- The world with other readings. -/
def World.withReadings (v : World Catalogue) (rs : Keyed Reading) : World Catalogue :=
  ⟨{ v.store with readings := rs }, v.taken⟩

/-- If looking up readings has changed by `g`, so have the readings of every event. The lists of
readings in the records are the same, and only what is found under their ids has changed. -/
theorem eventsShow_storing {rs : Keyed Reading} {g : List Reading → List Reading}
    (h : ∀ ids : List ObjectId, ids.filterMap rs.get? = g (ids.filterMap v.store.readings.get?))
    (n n' : Nat) : EventsShow g (v.storing n) ((v.withReadings rs).storing n') := by
  have loaded (e : EventRecord) :
      (v.withReadings rs).store.event e = (v.store.event e).withReadings g :=
    congrArg e.toEvent (h e.readings)
  -- each query of more events than one selects the same records in both worlds
  have listed {a : Action (List Event)} {records : Surroundings → List EventRecord}
      (before : ∀ around, Yields around a v (.ok ((records around).map v.store.event)) v)
      (after : ∀ around, Yields around a (v.withReadings rs)
        (.ok ((records around).map (v.withReadings rs).store.event)) (v.withReadings rs)) :
      Becomes (v.storing n) ((v.withReadings rs).storing n') a (List.map (.withReadings g)) := by
    refine .of_yields before (fun around => ?_) n n'
    have same : (records around).map (v.withReadings rs).store.event
        = ((records around).map v.store.event).map (Event.withReadings g) := by
      rw [List.map_map]
      exact List.map_congr_left fun e _ => loaded e
    rw [← same]
    exact after around
  refine {
    events := listed (fun _ => events_yields) fun _ => events_yields
    eventById := fun k d text hd hp => ?_
    eventsForDevice := fun device =>
      listed (fun _ => eventsForDevice_yields device) fun _ => eventsForDevice_yields device
    eventsForDeviceLimit := fun device limit =>
      listed (fun _ => eventsForDeviceLimit_yields device limit)
        fun _ => eventsForDeviceLimit_yields device limit
    eventsByCreationTime := fun start stop limit =>
      listed (fun _ => eventsByCreationTime_yields start stop limit)
        fun _ => eventsByCreationTime_yields start stop limit
    eventsOlderThanAge := fun age =>
      listed (fun _ => eventsOlderThanAge_yields age) fun _ => eventsOlderThanAge_yields age
    eventsPushed := listed (fun _ => eventsPushed_yields) fun _ => eventsPushed_yields }
  obtain ⟨e, he⟩ := Keyed.exists_of_table (s := v.store.events) hd
  refine .of_yields (fun _ => eventById_text he hp) (fun around => ?_) n n'
  rw [← loaded]
  exact eventById_text he hp

/-! ## One document changes -/

/-- Readings that differ in one place at most leave everything else as it was. -/
theorem sameBut_withReadings {rs : Keyed Reading} {k : ObjectId}
    (h : ∀ k', k' ≠ k → rs.get? k' = v.store.readings.get? k') (n n' : Nat) :
    SameBut .readings k (v.storing n) ((v.withReadings rs).storing n') where
  documents k' hk := (Keyed.get?_table_of (h k' hk)).trans (Keyed.get?_table ..).symm
  tables c hc := by
    cases c with
    | readings => exact absurd rfl hc
    | events => rfl
    | valueDescriptors => rfl
  closed := rfl
  taken := rfl

/-- The judgements on an action for a stored and for a missing entity decide how it ends. -/
theorem decidedBy_storing {α : Type} [Entity α] {s : Keyed α} {c : Collection} {k : ObjectId}
    {around : Surroundings} {a : Action Unit} {n : Nat} {effect : World Memory → Prop}
    (hs : (v.storing n).store.table c = s.table)
    (missing : s.get? k = none → Yields around a v (.error .notFound) v)
    (stored : ∀ x, s.get? k = some x → ∃ v', Yields around a v (.ok ()) v' ∧
      ∀ n', SameBut c k (v.storing n) (v'.storing n') ∧ effect (v'.storing n')) :
    DecidedBy around a c k (v.storing n) effect where
  stored d hd := by
    rw [hs] at hd
    obtain ⟨x, hx⟩ := Keyed.exists_of_table hd
    obtain ⟨v', hrun, heffect⟩ := stored x hx
    obtain ⟨n', hrun⟩ := hrun n
    exact ⟨_, hrun, heffect n'⟩
  missing hd := by
    rw [hs, Keyed.get?_table, Option.map_eq_none_iff] at hd
    obtain ⟨n', hrun⟩ := missing hd n
    exact ⟨_, hrun, v.sameContent_storing n n'⟩

end

/-! ## The three changes

Each of them changes one document. Whether it is there decides how the request ends, and if it is,
the effect on all queries follows from that on the catalogue. -/

/-- The effect of the deletion of a reading: it is gone from its table and from every event. The
records of the events are not changed by this. -/
structure ReadingGone (k : ObjectId) (w w' : World Memory) : Prop where
  gone : (w'.store.table .readings).get? k = none
  shown : EventsShow (List.filter fun r => r.id ≠ k) w w'

/-- The effect of the change of a reading: the new one is in the place of the old one in its table
and in every event. -/
structure ReadingReplaced (r : Reading) (w w' : World Memory) : Prop where
  stored : (w'.store.table .readings).get? r.id = some r.toDocument
  shown : EventsShow (List.map fun old => if old.id = r.id then r else old) w w'

/-- The effect of the deletion of an event: it is gone, the other events are found as before, and so
are the readings. -/
structure EventGone (k : ObjectId) (w w' : World Memory) : Prop where
  gone : (w'.store.table .events).get? k = none
  readings : Becomes w w' readings id
  events : Becomes w w' events (List.filter fun e => e.id ≠ k)
  eventById : ∀ k' d text, k' ≠ k → (w.store.table .events).get? k' = some d →
    ObjectId.parse? text = some k' → Becomes w w' (eventById text) id

section

variable (v : World Catalogue) (n : Nat) (around : Surroundings)

/-- Deleting a reading is decided by whether it is there. If it is, no event shows it any more,
though the records still name it. -/
theorem deleteReadingById_decided {text : String} {k : ObjectId}
    (hp : ObjectId.parse? text = some k) :
    DecidedBy around (deleteReadingById text) .readings k (v.storing n)
      (ReadingGone k (v.storing n)) := by
  refine decidedBy_storing (s := v.store.readings) rfl (fun hk => ?_) fun r hr => ?_
  · exact deleteReadingById_error ((Keyed.fetch_of_parse hp).trans (congrArg orNotFound hk))
  · have hid : r.id = k := Keyed.id_of_get? hr
    have deleted : Yields around (deleteReadingById text) v (.ok ())
        ⟨v.store.removeReading r.id, v.taken⟩ :=
      deleteReadingById_ok ((Keyed.fetch_of_parse hp).trans (congrArg orNotFound hr))
    rw [hid] at deleted
    refine ⟨v.withReadings (v.store.readings.remove k), deleted, fun n' => ⟨?_, ?_, ?_⟩⟩
    · exact sameBut_withReadings (fun k' hk => (Keyed.get?_remove ..).trans (if_neg hk)) n n'
    · exact Keyed.get?_table_of ((Keyed.get?_remove v.store.readings k k).trans (if_pos rfl))
    · exact eventsShow_storing (v.store.readings.filterMap_remove k) n n'

/-- Changing a reading is decided by whether it is there. If it is, every event that names it shows
the new one. -/
theorem updateReading_decided (r : Reading) :
    DecidedBy around (updateReading r) .readings r.id (v.storing n)
      (ReadingReplaced { r with modified := around.now } (v.storing n)) := by
  refine decidedBy_storing (s := v.store.readings) rfl updateReading_missing fun old hold => ?_
  let changed : Reading := { r with modified := around.now }
  refine ⟨v.withReadings (v.store.readings.put changed), updateReading_stored hold,
    fun n' => ⟨?_, ?_, ?_⟩⟩
  · refine sameBut_withReadings (fun k' hk => ?_) n n'
    exact (Keyed.get?_put v.store.readings changed k').trans (if_neg hk)
  · exact Keyed.get?_table_of ((Keyed.get?_put v.store.readings changed r.id).trans (if_pos rfl))
  · exact eventsShow_storing (Keyed.filterMap_put (b := changed) hold) n n'

/-- The world without an event. -/
def eventDeleted (v : World Catalogue) (k : ObjectId) : World Catalogue :=
  ⟨v.store.removeEvent k, v.taken⟩

/-- After the deletion nothing is under the id, and the other events are where they were. -/
theorem get?_eventDeleted (k k' : ObjectId) :
    (eventDeleted v k).store.events.get? k' = if k' = k then none else v.store.events.get? k' :=
  Keyed.get?_remove ..

/-- Nothing but the one event has changed. -/
theorem sameBut_eventDeleted (k : ObjectId) (n' : Nat) :
    SameBut .events k (v.storing n) ((eventDeleted v k).storing n') where
  documents k' hk := by
    have left := (get?_eventDeleted v k k').trans (if_neg hk)
    exact (Keyed.get?_table_of left).trans (Keyed.get?_table ..).symm
  tables c hc := by
    cases c with
    | events => exact absurd rfl hc
    | readings => rfl
    | valueDescriptors => rfl
  closed := rfl
  taken := rfl

/-- No query shows the event any more, and its readings are as they were. They are stored apart, and
deleting a record does not look at them. -/
theorem eventGone_eventDeleted (k : ObjectId) (n' : Nat) :
    EventGone k (v.storing n) ((eventDeleted v k).storing n') where
  gone := Keyed.get?_table_of ((get?_eventDeleted v k k).trans (if_pos rfl))
  readings := .of_yields (fun _ => readings_yields) (fun _ => readings_yields) n n'
  events := by
    refine .of_yields (fun _ => events_yields) (fun _ => ?_) n n'
    have rest : (v.store.events.list.map v.store.event).filter (fun e => e.id ≠ k)
        = (eventDeleted v k).store.events.list.map (eventDeleted v k).store.event := by
      have removed : (eventDeleted v k).store.events.list
          = v.store.events.list.filter fun e => e.id ≠ k := v.store.events.list_remove k
      rw [removed, List.filter_map]
      rfl
    rw [rest]
    exact events_yields
  eventById k' d text hk hd hp := by
    obtain ⟨e, he⟩ := Keyed.exists_of_table (s := v.store.events) hd
    have left : (eventDeleted v k).store.events.get? k' = some e :=
      ((get?_eventDeleted v k k').trans (if_neg hk)).trans he
    exact .of_yields (fun _ => eventById_text he hp) (fun _ => eventById_text left hp) n n'

/-- Deleting an event is decided by whether it is there. -/
theorem deleteEventById_decided {text : String} {k : ObjectId}
    (hp : ObjectId.parse? text = some k) :
    DecidedBy around (deleteEventById text) .events k (v.storing n)
      (EventGone k (v.storing n)) := by
  refine decidedBy_storing (s := v.store.events) rfl (fun hk => ?_) fun e he => ?_
  · exact deleteEventById_error ((Keyed.fetch_of_parse hp).trans (congrArg orNotFound hk))
  · have hid : e.id = k := Keyed.id_of_get? he
    have deleted : Yields around (deleteEventById text) v (.ok ()) (eventDeleted v e.id) :=
      deleteEventById_ok ((Keyed.fetch_of_parse hp).trans (congrArg orNotFound he))
    rw [hid] at deleted
    exact ⟨_, deleted, fun n' =>
      ⟨sameBut_eventDeleted v n k n', eventGone_eventDeleted v n k n'⟩⟩

end

/-- In every open store that requests reach, the deletion and the change of a reading show in the
readings of every event and nowhere else, and the deletion of an event shows in no reading and in no
other event. Each of the three changes the one document that it names, and if that is not stored it
says so and changes nothing. -/
theorem one_change_shows {fresh : Nat → ObjectId} {w : World Memory} (h : Reached fresh w)
    (hopen : w.store.closed = false) (around : Surroundings) :
    (∀ text k, ObjectId.parse? text = some k →
      DecidedBy around (deleteReadingById text) .readings k w (ReadingGone k w)) ∧
    (∀ r : Reading, DecidedBy around (updateReading r) .readings r.id w
      (ReadingReplaced { r with modified := around.now } w)) ∧
    ∀ text k, ObjectId.parse? text = some k →
      DecidedBy around (deleteEventById text) .events k w (EventGone k w) := by
  obtain ⟨v, n, rfl⟩ := h.storing hopen
  exact ⟨fun _ _ hp => deleteReadingById_decided v n around hp,
    updateReading_decided v n around,
    fun _ _ hp => deleteEventById_decided v n around hp⟩

/-- One of the two readings of the stored event is deleted. -/
theorem one_change_shows_of_boiler :
    Reached .numbered eventWorld ∧ eventWorld.store.closed = false ∧
      ∃ w', exec Memory.backend ⟨12, .numbered⟩
          (deleteReadingById (ObjectId.numbered 1).toHex) eventWorld = (.ok (), w') ∧
        SameBut .readings (.numbered 1) eventWorld w' ∧
        ReadingGone (.numbered 1) eventWorld w' := by
  have stored : ∃ d, (eventWorld.store.table .readings).get? (.numbered 1) = some d := by
    obtain ⟨n, hw⟩ := eventWorld_standsFor
    rw [hw]
    exact ⟨_, rfl⟩
  obtain ⟨d, hd⟩ := stored
  obtain ⟨deletion, -⟩ :=
    one_change_shows reachable_eventWorld.reached eventWorld_standsFor.isOpen ⟨12, .numbered⟩
  exact ⟨reachable_eventWorld.reached, eventWorld_standsFor.isOpen,
    (deletion _ (.numbered 1) (ObjectId.parse?_toHex _)).stored d hd⟩

end Telemetry
