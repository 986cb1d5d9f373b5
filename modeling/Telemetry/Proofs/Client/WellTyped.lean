import Telemetry.Proofs.Client.Runs

/-!
# The store stays well typed

Each operation writes documents of entities only, each under the id of its entity. An update of an
event is no exception: it sets some fields of a stored document, but the outcome is again the
document of a record. So whatever is stored can be read back, and no operation meets a document that
does not fit, a name of an id that does not parse, or an event that is found and yet not loaded.

* `typed_and_foreseen` — every run keeps the store well typed, and no result in it is an unexpected
  error.
-/

namespace Telemetry

/-- Every document is the document of an entity whose id is the key of the document. So nothing that
is stored can fail to be read. -/
structure WellTyped (m : Memory) : Prop where
  events : ∀ k d, m.events.get? k = some d → ∃ e : EventRecord, e.id = k ∧ d = e.toDocument
  readings : ∀ k d, m.readings.get? k = some d → ∃ r : Reading, r.id = k ∧ d = r.toDocument
  valueDescriptors : ∀ k d, m.valueDescriptors.get? k = some d →
    ∃ v : ValueDescriptor, v.id = k ∧ d = v.toDocument

theorem Keyed.table_typed {α : Type} [Entity α] (s : Keyed α) {k : ObjectId} {d : Document}
    (h : s.table.get? k = some d) : ∃ a : α, Entity.id a = k ∧ d = Entity.toDocument a := by
  rw [get?_table, Option.map_eq_some_iff] at h
  obtain ⟨a, ha, rfl⟩ := h
  exact ⟨a, id_of_get? ha, rfl⟩

/-- The store of a catalogue is well-typed, for its documents have been written for entities. -/
theorem Catalogue.wellTyped (c : Catalogue) (n : Nat) (closed : Bool) :
    WellTyped { c.store n with closed := closed } where
  events _ _ h := c.events.table_typed h
  readings _ _ h := c.readings.table_typed h
  valueDescriptors _ _ h := c.descriptors.table_typed h

/-- **What is stored is typed**: every run on a store that is empty at first keeps the store well
typed, and no request that comes next ends with an unexpected error, the stop of `eventById` at an
empty list included. All that is asked of the run is that no id is taken twice. -/
theorem typed_and_foreseen {fresh : Nat → ObjectId} {w : World Memory} (h : Reachable fresh w) :
    WellTyped w.store ∧
      ∀ q : Request, Distinct fresh (q.serve fresh w).2.taken →
        ∀ cause, (q.serve fresh w).1 ≠ .error (.unexpected cause) := by
  obtain ⟨c, hc⟩ := h.holds
  obtain ⟨n, closed, hstore⟩ := hc.1
  constructor
  · rw [hstore]
    exact c.wellTyped n closed
  · intro q hd
    exact (hc.serve q).1 hd

/-- A store with one reading, asked for an event under the id of the reading. -/
theorem typed_and_foreseen_of_reading :
    Reachable .numbered firstWorld ∧ WellTyped firstWorld.store ∧
      ∀ cause, (Request.serve .numbered ⟨.eventById (ObjectId.numbered 0).toHex, 6⟩ firstWorld).1
        ≠ .error (.unexpected cause) := by
  obtain ⟨n, hw⟩ := firstWorld_standsFor
  have asked : Action.Yields ⟨6, .numbered⟩ (Client.eventById (ObjectId.numbered 0).toHex)
      ⟨firstCatalogue, 1⟩ _ ⟨firstCatalogue, 1⟩ := Client.eventById_yields _
  obtain ⟨n', hrun⟩ := asked n
  rw [← hw] at hrun
  have hd : Distinct .numbered
      (Request.serve .numbered ⟨.eventById (ObjectId.numbered 0).toHex, 6⟩ firstWorld).2.taken := by
    rw [show Request.serve .numbered ⟨.eventById _, 6⟩ firstWorld = _ from hrun]
    exact distinct_numbered (n := 1) (by decide)
  obtain ⟨typed, foreseen⟩ := typed_and_foreseen reachable_firstWorld
  exact ⟨reachable_firstWorld, typed, foreseen _ hd⟩

end Telemetry
