import Telemetry.Proofs.Client.Queries
import Telemetry.Proofs.Client.UpdatedEvents

/-!
# Events older than an age

What is asked for is a difference of times, and the times are machine words, so the difference is
cut off where it leaves their range. The bound that comes of it is exclusive: an event at the last
instant of the range lies below no bound at all, and is left out even where it is older.

* `lt_saturatingSub_iff` — the test of a creation time, against the difference of whole numbers.
* `events_older_listed` — what the query answers in every open store that requests reach, and where
  this is the list of all older events.
* `events_older_incomplete` — an event at the last instant that is older and not listed.
-/

namespace Telemetry

open Client Program
open Telemetry.Action (Yields)

/-! ## The bound -/

/-- Whether something created at one time is older than an age at another, by the difference of
whole numbers. -/
def OlderThan (now : Timestamp) (age : Int64) (created : Timestamp) : Prop :=
  age.toInt < now.toInt - created.toInt

instance (now : Timestamp) (age : Int64) (created : Timestamp) :
    Decidable (OlderThan now age created) :=
  inferInstanceAs (Decidable (age.toInt < now.toInt - created.toInt))

/-- A difference of times is cut off at the ends of the range. Where it lies inside it is the
difference of the numbers. -/
theorem Client.toInt_saturatingSub (a b : Int64) :
    (saturatingSub a b).toInt = max (-2 ^ 63) (min (a.toInt - b.toInt) (2 ^ 63 - 1)) := by
  unfold saturatingSub
  dsimp only
  split
  · rw [Int64.toInt_minValue]
    omega
  · split
    · rw [Int64.toInt_maxValue]
      omega
    · rw [Int64.toInt_ofInt_of_le (by omega) (by omega)]
      omega

theorem eq_maxValue_iff_toInt {t : Timestamp} : t = Int64.maxValue ↔ t.toInt = 2 ^ 63 - 1 := by
  rw [← Int64.toInt_inj, Int64.toInt_maxValue]

/-- A time below the cut-off difference is older and not the last instant. -/
theorem Client.lt_saturatingSub_iff (now age created : Int64) :
    created < saturatingSub now age ↔ OlderThan now age created ∧ created ≠ Int64.maxValue := by
  have low := created.le_toInt
  have high := created.toInt_lt
  rw [Int64.lt_iff_toInt_lt, toInt_saturatingSub, OlderThan, Ne, eq_maxValue_iff_toInt]
  omega

/-- The last instant is older than an age exactly if the difference is cut off from above. -/
theorem olderThan_maxValue {now : Timestamp} {age : Int64} :
    OlderThan now age Int64.maxValue ↔ 2 ^ 63 ≤ now.toInt - age.toInt := by
  rw [OlderThan, Int64.toInt_maxValue]
  omega

/-! ## The query -/

namespace Catalogue

variable (c : Catalogue) (now : Timestamp) (age : Int64)

/-- The events older than an age, in the order of their ids. The difference is taken of the numbers,
so nothing is cut off here. -/
def eventsOlder : List Event :=
  (c.events.list.filter fun e => OlderThan now age e.created).map c.event

/-- Among the events before the last instant, those that are older are the ones that the query
selects. -/
theorem eventsOlder_filter :
    (c.eventsOlder now age).filter (fun e => e.created ≠ Int64.maxValue)
      = (c.events.list.filter fun e => e.created < saturatingSub now age).map c.event := by
  rw [eventsOlder, List.filter_map, List.filter_filter]
  refine congrArg _ (List.filter_congr fun e _ => ?_)
  rw [Bool.eq_iff_iff, Bool.and_eq_true, Function.comp_apply, decide_eq_true_iff,
    decide_eq_true_iff, decide_eq_true_iff, lt_saturatingSub_iff]
  exact and_comm

/-- Nothing is left out unless the difference is cut off and there is an event at the last instant.
Both are needed: a bound at the end of the range excludes that instant alone. -/
theorem eventsOlder_filter_eq_self :
    (c.eventsOlder now age).filter (fun e => e.created ≠ Int64.maxValue) = c.eventsOlder now age
      ↔ (2 ^ 63 ≤ now.toInt - age.toInt → ∀ e ∈ c.events.list, e.created ≠ Int64.maxValue) := by
  rw [List.filter_eq_self, ← olderThan_maxValue]
  constructor
  · intro h older e he hlast
    have listed : c.event e ∈ c.eventsOlder now age := by
      refine List.mem_map_of_mem (List.mem_filter.2 ⟨he, decide_eq_true ?_⟩)
      rwa [hlast]
    exact of_decide_eq_true (h _ listed) hlast
  · intro h e he
    obtain ⟨r, hr, rfl⟩ := List.mem_map.1 he
    obtain ⟨hr, older⟩ := List.mem_filter.1 hr
    refine decide_eq_true fun (hlast : r.created = Int64.maxValue) => ?_
    exact h (hlast ▸ of_decide_eq_true older) r hr hlast

end Catalogue

/-- The query lists the older events that are not at the last instant. -/
theorem Client.eventsOlderThanAge_listed {around : Surroundings} {v : World Catalogue}
    (age : Int64) :
    Yields around (eventsOlderThanAge age) v (.ok
      ((v.store.eventsOlder around.now age).filter fun e => e.created ≠ Int64.maxValue)) v := by
  rw [Catalogue.eventsOlder_filter]
  exact eventsOlderThanAge_yields age

/-- In every open store that requests reach, at every time and for every age, the older events are
listed in the order of their ids, and nothing is changed. Left out are those at the last instant, so
the list is complete if there are none or if the difference stays in the range, and only then. -/
theorem events_older_listed {fresh : Nat → ObjectId} {w : World Memory} (h : Reached fresh w)
    (hopen : w.store.closed = false) :
    ∃ c : Catalogue, (∃ calls, w.store = c.store calls) ∧
      (c.events.list.Pairwise fun a b => a.id < b.id) ∧
      ∀ around age,
        (∃ w', exec Memory.backend around (eventsOlderThanAge age) w = (.ok
            ((c.eventsOlder around.now age).filter fun e => e.created ≠ Int64.maxValue), w') ∧
          SameContent w w') ∧
        ((c.eventsOlder around.now age).filter (fun e => e.created ≠ Int64.maxValue)
            = c.eventsOlder around.now age ↔
          (2 ^ 63 ≤ around.now.toInt - age.toInt →
            ∀ e ∈ c.events.list, e.created ≠ Int64.maxValue)) := by
  obtain ⟨v, n, rfl⟩ := h.storing hopen
  refine ⟨v.store, ⟨n, rfl⟩, v.store.events.list_increasing, fun around age =>
    ⟨?_, v.store.eventsOlder_filter_eq_self around.now age⟩⟩
  have listed : Yields around (eventsOlderThanAge age) v (.ok _) v :=
    eventsOlderThanAge_listed age
  obtain ⟨n', hrun⟩ := listed n
  exact ⟨_, hrun, v.sameContent_storing n n'⟩

/-- Where the difference stays in the range the list is complete. -/
theorem events_older_listed_of_boiler :
    Reached .numbered eventWorld ∧ eventWorld.store.closed = false ∧
      ∃ c : Catalogue, (∃ calls, eventWorld.store = c.store calls) ∧
        ∃ w', exec Memory.backend ⟨20, .numbered⟩ (eventsOlderThanAge 10) eventWorld
          = (.ok (c.eventsOlder 20 10), w') := by
  obtain ⟨c, hstore, -, listed⟩ :=
    events_older_listed reachable_eventWorld.reached eventWorld_standsFor.isOpen
  obtain ⟨⟨w', hrun, -⟩, complete⟩ := listed ⟨20, .numbered⟩ 10
  rw [complete.2 fun cut => absurd cut (by decide)] at hrun
  exact ⟨reachable_eventWorld.reached, eventWorld_standsFor.isOpen, c, hstore, w', hrun⟩

/-! ## An event at the last instant -/

/-- An event that is given out as created at the last instant. The update sets the time, for adding
an event would take the present. -/
def lastInstantEvent : Event :=
  { boilerEvent with id := .numbered 0, created := Int64.maxValue }

/-- The world after this update. -/
def lastInstantWorld : World Memory :=
  (Request.serve .numbered ⟨.updateEvent lastInstantEvent, 12⟩ eventWorld).2

theorem reached_lastInstantWorld : Reached .numbered lastInstantWorld :=
  .serve _ reachable_eventWorld.reached

/-- The event is there, created at the last instant. -/
theorem lastInstantWorld_standsFor : ∃ v, lastInstantWorld.StandsFor v ∧
    ∃ e, v.store.events.get? (.numbered 0) = some e ∧ e.created = Int64.maxValue := by
  obtain ⟨n, hw⟩ := eventWorld_standsFor
  let before := eventAdded ⟨9, .numbered⟩ ⟨.empty, 0⟩ boilerEvent
  let old : EventRecord := (stamped ⟨9, .numbered⟩ 0 boilerEvent).toRecord
  have stored : before.store.events.get? lastInstantEvent.id = some old := rfl
  have updates : Yields ⟨12, .numbered⟩ (updateEvent lastInstantEvent) before (.ok ())
      (eventUpdated ⟨12, .numbered⟩ before lastInstantEvent old) := updateEvent_stored stored
  obtain ⟨n', hrun⟩ := updates n
  refine ⟨_, ⟨n', ?_⟩, _, (get?_eventUpdated stored ⟨12, .numbered⟩ _).trans (if_pos rfl), rfl⟩
  rw [lastInstantWorld, hw]
  exact congrArg Prod.snd hrun

/-- The query does not list all older events in every store: an event at the last instant is older
than the least age at time 1000, and is left out. -/
theorem events_older_incomplete :
    ¬∀ (fresh : Nat → ObjectId) (w : World Memory), Reached fresh w → w.store.closed = false →
      ∀ (c : Catalogue) (calls : Nat), w.store = c.store calls → ∀ around age,
        (exec Memory.backend around (eventsOlderThanAge age) w).1
          = .ok (c.eventsOlder around.now age) := by
  intro h
  obtain ⟨v, stands, e, he, hlast⟩ := lastInstantWorld_standsFor
  have hopen := stands.isOpen
  obtain ⟨n, hw⟩ := stands
  have answer := h .numbered lastInstantWorld reached_lastInstantWorld hopen v.store n
    (congrArg World.store hw) ⟨1000, .numbered⟩ Int64.minValue
  have listed : Yields ⟨1000, .numbered⟩ (eventsOlderThanAge Int64.minValue) v (.ok _) v :=
    eventsOlderThanAge_listed Int64.minValue
  obtain ⟨n', hrun⟩ := listed n
  rw [hw, hrun] at answer
  have stored : e ∈ v.store.events.list := by
    rw [Keyed.mem_list, Keyed.id_of_get? he, he]
  have complete := v.store.eventsOlder_filter_eq_self 1000 Int64.minValue
  exact complete.1 (Except.ok.inj answer) (by decide) e stored hlast

end Telemetry
