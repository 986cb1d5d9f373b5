import Telemetry.Proofs.Client.Events
import Telemetry.Proofs.Client.ValueDescriptors

/-!
# Operations and runs of the client

The operations of the client are data, so that a run is a sequence of them: `Request` is an
operation together with the time at which it is carried out. `Reachable` is every world that
requests reach from an empty store, if no id is taken twice.

* `Operation.taken_le` — how many ids an operation takes at least, on whatever store.
* `Issued.new` — if every id in use has been taken, the ids that are taken next are not in use.
-/

namespace Telemetry

open Client Program

/-! ## Operations -/

/-- What can be asked of the client, with all arguments. Every public function of the client is one
of them. -/
inductive Operation where
  | ping
  | close
  | events
  | eventById (text : String)
  | eventsForDevice (device : String)
  | eventsForDeviceLimit (device : String) (limit : UInt64)
  | eventsByCreationTime (start stop : Timestamp) (limit : UInt64)
  | eventsOlderThanAge (age : Int64)
  | eventsPushed
  | eventCount
  | eventCountByDevice (device : String)
  | addEvent (e : Event)
  | updateEvent (e : Event)
  | deleteEventById (text : String)
  | scrubAllEvents
  | readings
  | readingById (text : String)
  | readingsByDevice (device : String) (limit : UInt64)
  | readingsByValueDescriptor (name : String) (limit : UInt64)
  | readingsByValueDescriptorNames (names : List String) (limit : UInt64)
  | readingsByCreationTime (start stop : Timestamp) (limit : UInt64)
  | readingsByDeviceAndValueDescriptor (device name : String) (limit : UInt64)
  | readingCount
  | addReading (r : Reading)
  | updateReading (r : Reading)
  | deleteReadingById (text : String)
  | valueDescriptors
  | valueDescriptorById (text : String)
  | valueDescriptorByName (name : String)
  | valueDescriptorsByName (names : List String)
  | valueDescriptorsByUomLabel (uomLabel : String)
  | valueDescriptorsByLabel (label : String)
  | valueDescriptorsByType (valueType : String)
  | valueDescriptorCount
  | addValueDescriptor (d : ValueDescriptor)
  | updateValueDescriptor (d : ValueDescriptor)
  | deleteValueDescriptorById (text : String)
  | scrubAllValueDescriptors

namespace Operation

/-- What an operation answers with. -/
abbrev Answer : Operation → Type
  | eventById _ => Event
  | events | eventsForDevice _ | eventsForDeviceLimit .. | eventsByCreationTime ..
  | eventsOlderThanAge _ | eventsPushed => List Event
  | readingById _ => Reading
  | readings | readingsByDevice .. | readingsByValueDescriptor ..
  | readingsByValueDescriptorNames .. | readingsByCreationTime ..
  | readingsByDeviceAndValueDescriptor .. => List Reading
  | valueDescriptorById _ | valueDescriptorByName _ => ValueDescriptor
  | valueDescriptors | valueDescriptorsByName _ | valueDescriptorsByUomLabel _
  | valueDescriptorsByLabel _ | valueDescriptorsByType _ => List ValueDescriptor
  | eventCount | eventCountByDevice _ | readingCount | valueDescriptorCount
  | scrubAllValueDescriptors => UInt64
  | scrubAllEvents => UInt64 × UInt64
  | addEvent _ | addReading _ | addValueDescriptor _ => ObjectId
  | _ => Unit

/-- The action of the client that carries out an operation. What can be said of every operation is
said of this function, and proved by cases on the operation. -/
def action : (op : Operation) → Action op.Answer
  | ping => Action.call .ping
  | close => Action.call .close
  | events => Client.events
  | eventById text => Client.eventById text
  | eventsForDevice device => Client.eventsForDevice device
  | eventsForDeviceLimit device limit => Client.eventsForDeviceLimit device limit
  | eventsByCreationTime start stop limit => Client.eventsByCreationTime start stop limit
  | eventsOlderThanAge age => Client.eventsOlderThanAge age
  | eventsPushed => Client.eventsPushed
  | eventCount => Client.eventCount
  | eventCountByDevice device => Client.eventCountByDevice device
  | addEvent e => ExceptT.mk ((Client.addEvent e).bind fun added => .done added.2)
  | updateEvent e => Client.updateEvent e
  | deleteEventById text => Client.deleteEventById text
  | scrubAllEvents => Client.scrubAllEvents
  | readings => Client.readings
  | readingById text => Client.readingById text
  | readingsByDevice device limit => Client.readingsByDevice device limit
  | readingsByValueDescriptor name limit => Client.readingsByValueDescriptor name limit
  | readingsByValueDescriptorNames names limit => Client.readingsByValueDescriptorNames names limit
  | readingsByCreationTime start stop limit => Client.readingsByCreationTime start stop limit
  | readingsByDeviceAndValueDescriptor device name limit =>
    Client.readingsByDeviceAndValueDescriptor device name limit
  | readingCount => Client.readingCount
  | addReading r => Client.addReading r
  | updateReading r => Client.updateReading r
  | deleteReadingById text => Client.deleteReadingById text
  | valueDescriptors => Client.valueDescriptors
  | valueDescriptorById text => Client.valueDescriptorById text
  | valueDescriptorByName name => Client.valueDescriptorByName name
  | valueDescriptorsByName names => Client.valueDescriptorsByName names
  | valueDescriptorsByUomLabel uomLabel => Client.valueDescriptorsByUomLabel uomLabel
  | valueDescriptorsByLabel label => Client.valueDescriptorsByLabel label
  | valueDescriptorsByType valueType => Client.valueDescriptorsByType valueType
  | valueDescriptorCount => Client.valueDescriptorCount
  | addValueDescriptor d => Client.addValueDescriptor d
  | updateValueDescriptor d => Client.updateValueDescriptor d
  | deleteValueDescriptorById text => Client.deleteValueDescriptorById text
  | scrubAllValueDescriptors => Client.scrubAllValueDescriptors

/-- Adding an event as an operation keeps the result of storing it, whatever the store is. -/
theorem exec_addEvent {σ : Type} (b : Backend σ) (around : Surroundings) (e : Event)
    (w : World σ) :
    exec b around (addEvent e).action w
      = (((Client.addEvent e).run b around w).1.2, ((Client.addEvent e).run b around w).2) := by
  change ((Client.addEvent e).bind _).run b around w = _
  rw [run_bind]
  rfl

/-- The number of ids an operation takes. It depends on the operation alone, so two runs with the
same requests take the same ids. -/
def ids : Operation → Nat
  | addEvent e => 1 + e.readings.length
  | addReading _ | addValueDescriptor _ => 1
  | _ => 0

end Operation

/-! ## Runs -/

/-- An operation and the time at which it is carried out. -/
structure Request where
  operation : Operation
  now : Timestamp

/-- Carry out a request on the in-memory store; the ids come from one sequence for the whole run,
and the time is that of the request. -/
def Request.serve (fresh : Nat → ObjectId) (q : Request) (w : World Memory) :
    Except StoreError q.operation.Answer × World Memory :=
  exec Memory.backend ⟨q.now, fresh⟩ q.operation.action w

/-- The first `n` ids are pairwise different. -/
def Distinct (fresh : Nat → ObjectId) (n : Nat) : Prop :=
  ∀ i j, i < n → j < n → fresh i = fresh j → i = j

theorem Distinct.mono {fresh : Nat → ObjectId} {m n : Nat} (h : Distinct fresh n) (hm : m ≤ n) :
    Distinct fresh m :=
  fun i j hi hj => h i j (by omega) (by omega)

/-- The worlds that requests reach from an empty store, if no id is taken twice. Requests that fail
and the closing of the store are among them. -/
inductive Reachable (fresh : Nat → ObjectId) : World Memory → Prop where
  | start : Reachable fresh ⟨.empty, 0⟩
  | serve (q : Request) {w : World Memory} (h : Reachable fresh w)
    (distinct : Distinct fresh (q.serve fresh w).2.taken) : Reachable fresh (q.serve fresh w).2

/-! ## Taken ids -/

/-- No program gives an id back. -/
theorem taken_le_run {σ α : Type} (b : Backend σ) (around : Surroundings) (p : Program α)
    (w : World σ) : w.taken ≤ (p.run b around w).2.taken := by
  induction p generalizing w with
  | done a => exact Nat.le_refl _
  | call c next ih => exact ih _ { w with store := (b.answer c w.store).2 }
  | now next ih => exact ih _ w
  | freshId next ih =>
    have later := ih (around.fresh w.taken) { w with taken := w.taken + 1 }
    exact Nat.le_trans (Nat.le_succ _) later

/-- An operation takes as many ids as it is said to, at least. A stamped event takes one for each of
its readings and one for itself. -/
theorem Operation.taken_le {σ : Type} (b : Backend σ) (around : Surroundings) (op : Operation)
    (w : World σ) : w.taken + op.ids ≤ (exec b around op.action w).2.taken := by
  cases op with
  | addEvent e =>
    have stamped : w.taken + (1 + e.readings.length)
        ≤ ((Client.addEvent e).run b around w).2.taken := by
      rw [addEvent_run, ← Nat.add_assoc]
      exact taken_le_run b around (storeEvent (Client.stamped around w.taken e)).run
        { w with taken := w.taken + 1 + e.readings.length }
    rw [exec_addEvent]
    exact stamped
  | addReading r =>
    change w.taken + 1 ≤ (exec b around (Action.lift Program.takeId >>= _) w).2.taken
    rw [exec_bind]
    exact taken_le_run b around _ { w with taken := w.taken + 1 }
  | addValueDescriptor d =>
    change w.taken + 1 ≤ (exec b around
      (Action.lift Program.clock >>= fun _ => Action.lift Program.takeId >>= _) w).2.taken
    rw [exec_bind, Action.exec_lift]
    dsimp only
    rw [exec_bind]
    exact taken_le_run b around _ { w with taken := w.taken + 1 }
  -- the rest are said to take none, and no program gives an id back
  | _ => exact taken_le_run b around _ w

/-! ## Ids in use

Ids come into use by putting entities, and only under ids that have been taken. Taking entities away
frees ids, which does no harm. -/

/-- Whether a catalogue has an entity under an id. -/
def Catalogue.Has (c : Catalogue) (k : ObjectId) : Prop :=
  c.events.Has k ∨ c.readings.Has k ∨ c.descriptors.Has k

/-- Whether a catalogue has an entity of one kind under an id. -/
def Catalogue.HasIn (c : Catalogue) : Collection → ObjectId → Prop
  | .events => c.events.Has
  | .readings => c.readings.Has
  | .valueDescriptors => c.descriptors.Has

namespace Catalogue

variable {c : Catalogue} {col : Collection} {j k : ObjectId}

/-- An id is in use if one of the kinds has it. -/
theorem has_iff_hasIn : c.Has k ↔ ∃ col, c.HasIn col k := by
  constructor
  · rintro (h | h | h)
    · exact ⟨.events, h⟩
    · exact ⟨.readings, h⟩
    · exact ⟨.valueDescriptors, h⟩
  · rintro ⟨col, h⟩
    cases col with
    | events => exact .inl h
    | readings => exact .inr (.inl h)
    | valueDescriptors => exact .inr (.inr h)

/-- What is put is all that a write can bring into use. -/
theorem hasIn_putEvent {e : EventRecord} (h : (c.putEvent e).HasIn col k) :
    c.HasIn col k ∨ col = .events ∧ k = e.id := by
  cases col with
  | events => exact (Keyed.has_put h).symm.imp_right fun hk => ⟨rfl, hk⟩
  | readings | valueDescriptors => exact .inl h

/-- Putting readings brings their ids, and no others; the lemmas after this one say the same of the
other writes. -/
theorem hasIn_putReadings {rs : List Reading} (h : (c.putReadings rs).HasIn col k) :
    c.HasIn col k ∨ col = .readings ∧ k ∈ rs.map Reading.id := by
  cases col with
  | readings => exact (Keyed.has_putAll h).symm.imp_right fun hk => ⟨rfl, hk⟩
  | events | valueDescriptors => exact .inl h

/-- Putting a descriptor brings its id. -/
theorem hasIn_putDescriptor {d : ValueDescriptor}
    (free : ∀ a ∈ c.descriptors.list, a.name = d.name → a.id = d.id)
    (h : (c.putDescriptor d free).HasIn col k) :
    c.HasIn col k ∨ col = .valueDescriptors ∧ k = d.id := by
  cases col with
  | valueDescriptors => exact (Keyed.has_put h).symm.imp_right fun hk => ⟨rfl, hk⟩
  | events | readings => exact .inl h

theorem hasIn_removeEvent (h : (c.removeEvent j).HasIn col k) : c.HasIn col k := by
  cases col with
  | events => exact Keyed.has_remove h
  | readings | valueDescriptors => exact h

theorem hasIn_removeReading (h : (c.removeReading j).HasIn col k) : c.HasIn col k := by
  cases col with
  | readings => exact Keyed.has_remove h
  | events | valueDescriptors => exact h

theorem hasIn_removeDescriptor (h : (c.removeDescriptor j).HasIn col k) : c.HasIn col k := by
  cases col with
  | valueDescriptors => exact Keyed.has_remove h
  | events | readings => exact h

theorem hasIn_removeAllEvents (h : c.removeReadings.removeEvents.HasIn col k) :
    c.HasIn col k := by
  cases col with
  | events | readings => exact absurd h (Keyed.not_has_empty k)
  | valueDescriptors => exact h

theorem hasIn_removeDescriptors (h : c.removeDescriptors.HasIn col k) : c.HasIn col k := by
  cases col with
  | valueDescriptors => exact absurd h (Keyed.not_has_empty k)
  | events | readings => exact h

end Catalogue

/-- Every id in use has been taken. So an id that is taken next clashes with none, if no id is taken
twice. -/
def Issued (fresh : Nat → ObjectId) (v : World Catalogue) : Prop :=
  ∀ k, v.store.Has k → ∃ i, i < v.taken ∧ fresh i = k

/-- What an operation may do to the ids in use: those that are new have been taken by it. It may
also free ids, of which nothing is said. -/
def Grows (fresh : Nat → ObjectId) (v v' : World Catalogue) : Prop :=
  ∀ k, v'.store.Has k → v.store.Has k ∨ ∃ i, v.taken ≤ i ∧ i < v'.taken ∧ fresh i = k

section

variable {fresh : Nat → ObjectId} {v v' : World Catalogue}

/-- If only taken ids come into use, all ids in use have been taken. -/
theorem Grows.issued (h : Grows fresh v v') (hi : Issued fresh v) (ht : v.taken ≤ v'.taken) :
    Issued fresh v' := by
  intro k hk
  rcases h k hk with hk | ⟨i, -, hlt, rfl⟩
  · obtain ⟨i, hlt, rfl⟩ := hi k hk
    exact ⟨i, Nat.lt_of_lt_of_le hlt ht, rfl⟩
  · exact ⟨i, hlt, rfl⟩

/-- The ids that are taken next are not in use. -/
theorem Issued.new (hi : Issued fresh v) {i n : Nat} (hd : Distinct fresh n) (hle : v.taken ≤ i)
    (hlt : i < n) : ¬v.store.Has (fresh i) := by
  intro hk
  obtain ⟨j, hj, he⟩ := hi _ hk
  have hij := hd j i (by omega) hlt he
  omega

end

end Telemetry
