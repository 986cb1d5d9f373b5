import Telemetry.Proofs.Client.FirstCall
import Telemetry.Proofs.Client.Outcomes

/-!
# Every run keeps the store a catalogue

* `Holds.outcome` — a request to an open store has one of the outcomes of its operation.
* `Reached.holds` — so what requests reach is the store of a catalogue, open or closed.
-/

namespace Telemetry

open Client Program
open Telemetry.Action (Yields)

/-! ## Runs -/

/-- A world holds a catalogue: its store has the documents of the catalogue, and all ids in use have
been taken. The store may be closed. -/
def Holds (fresh : Nat → ObjectId) (c : Catalogue) (w : World Memory) : Prop :=
  (∃ n closed, w.store = { c.store n with closed := closed }) ∧ Issued fresh ⟨c, w.taken⟩

theorem Request.taken_le (fresh : Nat → ObjectId) (q : Request) (w : World Memory) :
    w.taken ≤ (q.serve fresh w).2.taken :=
  Nat.le_trans (Nat.le_add_right ..) (q.operation.taken_le Memory.backend ⟨q.now, fresh⟩ w)

/-- Whether a reading is stored under its id. -/
def Reading.IsIn (r : Reading) (w : World Memory) : Prop :=
  (w.store.table .readings).get? r.id = some r.toDocument

/-- Whether a descriptor is stored under its id. -/
def ValueDescriptor.IsIn (d : ValueDescriptor) (w : World Memory) : Prop :=
  (w.store.table .valueDescriptors).get? d.id = some d.toDocument

namespace Holds

variable {fresh : Nat → ObjectId} {c : Catalogue} {w : World Memory}

/-- An open store that holds a catalogue is a store of it. -/
theorem storing (h : Holds fresh c w) (hopen : w.store.closed = false) :
    ∃ n, w = World.storing ⟨c, w.taken⟩ n := by
  obtain ⟨⟨n, closed, hstore⟩, -⟩ := h
  obtain ⟨m, taken⟩ := w
  dsimp only at hstore hopen
  subst hstore
  dsimp only at hopen
  subst hopen
  exact ⟨n, rfl⟩

/-- The keys of the documents are the ids of the entities. -/
theorem hasIn_iff (h : Holds fresh c w) {col : Collection} {k : ObjectId} :
    c.HasIn col k ↔ ∃ d, (w.store.table col).get? k = some d := by
  have keys {α : Type} [Entity α] (s : Keyed α) : s.Has k ↔ ∃ d, s.table.get? k = some d := by
    rw [Keyed.get?_table]
    simp [Keyed.Has]
  obtain ⟨⟨n, closed, hstore⟩, -⟩ := h
  rw [hstore]
  cases col with
  | events => exact keys c.events
  | readings => exact keys c.readings
  | valueDescriptors => exact keys c.descriptors

theorem reading_isIn (h : Holds fresh c w) {r : Reading} : r.IsIn w ↔ r ∈ c.readings.list := by
  obtain ⟨⟨n, closed, hstore⟩, -⟩ := h
  rw [Reading.IsIn, hstore]
  exact Keyed.get?_table_eq_some

theorem descriptor_isIn (h : Holds fresh c w) {d : ValueDescriptor} :
    d.IsIn w ↔ d ∈ c.descriptors.list := by
  obtain ⟨⟨n, closed, hstore⟩, -⟩ := h
  rw [ValueDescriptor.IsIn, hstore]
  exact Keyed.get?_table_eq_some

theorem get?_of_not_has (h : Holds fresh c w) {k : ObjectId} (hk : ¬c.Has k)
    (collection : Collection) : (w.store.table collection).get? k = none := by
  refine Option.eq_none_iff_forall_ne_some.2 fun d hd => hk ?_
  exact Catalogue.has_iff_hasIn.2 ⟨collection, h.hasIn_iff.2 ⟨d, hd⟩⟩

/-- A request to an open store ends as the judgement of its operation says. -/
theorem serve_eq (h : Holds fresh c w) (hopen : w.store.closed = false) {q : Request}
    {r : Except StoreError q.operation.Answer} {v' : World Catalogue}
    (hy : Yields ⟨q.now, fresh⟩ q.operation.action ⟨c, w.taken⟩ r v') :
    ∃ n, q.serve fresh w = (r, v'.storing n) := by
  obtain ⟨n, hw⟩ := h.storing hopen
  obtain ⟨n', hrun⟩ := hy n
  rw [← hw] at hrun
  exact ⟨n', hrun⟩

/-- A request to an open store that does not close it has an outcome, which the store holds then.
The step of every statement about runs. -/
theorem outcome (h : Holds fresh c w) (hopen : w.store.closed = false) (q : Request)
    (hop : q.operation ≠ .close) :
    ∃ v' n, Outcome ⟨q.now, fresh⟩ ⟨c, w.taken⟩ q.operation (q.serve fresh w).1 v' ∧
      (q.serve fresh w).2 = v'.storing n ∧ Holds fresh v'.store (q.serve fresh w).2 := by
  have later := q.taken_le fresh w
  have ends : Ends ⟨q.now, fresh⟩ q.operation ⟨c, w.taken⟩ := q.operation.outcome hop
  obtain ⟨r, v', hy, ho⟩ := ends
  obtain ⟨n', hserve⟩ := h.serve_eq hopen hy
  rw [hserve] at later ⊢
  exact ⟨v', n', ho, rfl, ⟨n', false, rfl⟩, ho.issued h.2 later⟩

/-- A request that keeps the tables keeps the catalogue, though ids may be taken. -/
theorem serve_same (h : Holds fresh c w) {q : Request}
    (hstore : ∃ closed, (q.serve fresh w).2.store = { w.store with closed := closed }) :
    Holds fresh c (q.serve fresh w).2 := by
  obtain ⟨⟨n, closed, hc⟩, issued⟩ := h
  obtain ⟨closed', hstore⟩ := hstore
  refine ⟨⟨n, closed', ?_⟩,
    Grows.issued (v := ⟨c, w.taken⟩) (fun k hk => .inl hk) issued (q.taken_le fresh w)⟩
  rw [hstore, hc]

/-- A request to a closed store changes nothing that the catalogue speaks of. -/
theorem serve_closed (h : Holds fresh c w) (hclosed : w.store.closed = true) (q : Request) :
    Holds fresh c (q.serve fresh w).2 := by
  have same : (q.serve fresh w).2.store = w.store := run_closed ⟨q.now, fresh⟩ _ hclosed
  exact h.serve_same ⟨w.store.closed, same⟩

/-- Closing a store takes nothing out of it. -/
theorem serve_close (h : Holds fresh c w) (now : Timestamp) :
    Holds fresh c (Request.serve fresh ⟨.close, now⟩ w).2 :=
  h.serve_same ⟨true, rfl⟩

/-- The ids that a request takes are clear if no id is taken twice. -/
theorem clear (h : Holds fresh c w) (q : Request)
    (hd : Distinct fresh (q.serve fresh w).2.taken) :
    Clear ⟨q.now, fresh⟩ ⟨c, w.taken⟩ q.operation := by
  -- the operation may take more ids than it surely takes, but not fewer
  have least : Distinct fresh (w.taken + q.operation.ids) :=
    hd.mono (q.operation.taken_le Memory.backend ⟨q.now, fresh⟩ w)
  have issued : Issued (Surroundings.mk q.now fresh).fresh ⟨c, w.taken⟩ := h.2
  exact issued.clear least

/-- A request leaves a catalogue again. This is the step; the run lemmas below are inductions with
it. -/
theorem serve (h : Holds fresh c w) (q : Request) :
    (Distinct fresh (q.serve fresh w).2.taken → Foreseen (q.serve fresh w).1) ∧
      ∃ c', Holds fresh c' (q.serve fresh w).2 := by
  cases hc : w.store.closed with
  | true => exact ⟨fun _ => q.operation.calm ⟨q.now, fresh⟩ w hc, c, h.serve_closed hc q⟩
  | false =>
    obtain ⟨op, now⟩ := q
    by_cases hop : op = .close
    · subst hop
      exact ⟨fun _ => .ok _, c, h.serve_close now⟩
    · obtain ⟨v', n, ho, -, holds⟩ := h.outcome hc ⟨op, now⟩ hop
      exact ⟨fun hd => ho.foreseen (h.clear _ hd), _, holds⟩

end Holds

/-- The worlds that requests reach from an empty store, whatever ids are taken. Fewer things hold of
them than of `Reachable` ones. -/
inductive Reached (fresh : Nat → ObjectId) : World Memory → Prop where
  | start : Reached fresh ⟨.empty, 0⟩
  | serve (q : Request) {w : World Memory} (h : Reached fresh w) :
    Reached fresh (q.serve fresh w).2

/-- What requests with different ids reach is reached by requests. -/
theorem Reachable.reached {fresh : Nat → ObjectId} {w : World Memory} (h : Reachable fresh w) :
    Reached fresh w := by
  induction h with
  | start => exact .start
  | serve q _ _ ih => exact .serve q ih

/-- No id is in use in an empty store. -/
theorem issued_empty (fresh : Nat → ObjectId) (taken : Nat) : Issued fresh ⟨.empty, taken⟩ := by
  intro k hk
  rcases hk with hk | hk | hk
  · exact absurd hk (Keyed.not_has_empty k)
  · exact absurd hk (Keyed.not_has_empty k)
  · exact absurd hk (Keyed.not_has_empty k)

/-- Every world that requests reach holds a catalogue. So no run makes a document that could not
have been written for an entity. -/
theorem Reached.holds {fresh : Nat → ObjectId} {w : World Memory} (h : Reached fresh w) :
    ∃ c, Holds fresh c w := by
  -- on the run, with one request as the step
  induction h with
  | start => exact ⟨.empty, ⟨0, false, rfl⟩, issued_empty fresh 0⟩
  | serve q _ ih =>
    obtain ⟨c, hc⟩ := ih
    exact (hc.serve q).2

/-- Every world that is reached with different ids holds a catalogue. -/
theorem Reachable.holds {fresh : Nat → ObjectId} {w : World Memory} (h : Reachable fresh w) :
    ∃ c, Holds fresh c w := h.reached.holds

/-- As long as it is open, a world of a catalogue stands for it. -/
theorem Reached.storing {fresh : Nat → ObjectId} {w : World Memory} (h : Reached fresh w)
    (hopen : w.store.closed = false) : ∃ v n, w = World.storing v n := by
  obtain ⟨c, hc⟩ := h.holds
  exact ⟨⟨c, w.taken⟩, hc.storing hopen⟩

/-- A world stands for one of a catalogue: its store is open and holds the documents of the
catalogue, and as many ids have been taken. How many calls the store has taken up is left open, so
the judgements about catalogues apply to it. -/
def World.StandsFor (w : World Memory) (v : World Catalogue) : Prop := ∃ n, w = v.storing n

namespace World.StandsFor

variable {w : World Memory} {v : World Catalogue}

theorem isOpen (h : w.StandsFor v) : w.store.closed = false := by
  obtain ⟨n, rfl⟩ := h
  rfl

theorem taken_eq (h : w.StandsFor v) : w.taken = v.taken := by
  obtain ⟨n, rfl⟩ := h
  rfl

end World.StandsFor

/-! ## A run -/

/-- Ids in the order of their numbers. -/
def ObjectId.numbered (i : Nat) : ObjectId := ⟨i % 2 ^ 96, Nat.mod_lt _ (by decide)⟩

/-- Numbers written as ids differ, as far as ids go. -/
theorem distinct_numbered {n : Nat} (hn : n ≤ 2 ^ 96) : Distinct .numbered n := by
  intro i j hi hj he
  have hmod : i % 2 ^ 96 = j % 2 ^ 96 := congrArg ObjectId.value he
  rwa [Nat.mod_eq_of_lt (Nat.lt_of_lt_of_le hi hn),
    Nat.mod_eq_of_lt (Nat.lt_of_lt_of_le hj hn)] at hmod

/-- A first request, which stores a reading. -/
def firstReading : Request := ⟨.addReading (.new "temperature" "70"), 5⟩

/-- The world after the first request. It is the smallest one with something in it, and most
witnesses start from it. -/
def firstWorld : World Memory := (firstReading.serve .numbered ⟨.empty, 0⟩).2

/-- The reading as it is stored. -/
def firstStored : Reading := { Reading.new "temperature" "70" with id := .numbered 0, created := 5 }

/-- The catalogue with this one reading. -/
def firstCatalogue : Catalogue := Catalogue.empty.putReadings [firstStored]

theorem firstWorld_standsFor : firstWorld.StandsFor ⟨firstCatalogue, 1⟩ := by
  have added : Yields ⟨5, .numbered⟩ (addReading (.new "temperature" "70")) ⟨.empty, 0⟩ _
      ⟨firstCatalogue, 1⟩ := addReading_yields _ rfl
  obtain ⟨n, hserve⟩ := added 0
  exact ⟨n, congrArg Prod.snd hserve⟩

theorem reachable_firstWorld : Reachable .numbered firstWorld := by
  refine .serve firstReading .start ?_
  change Distinct _ firstWorld.taken
  rw [firstWorld_standsFor.taken_eq]
  exact distinct_numbered (by decide)

/-! ## A run with an event -/

/-- An event of one device with two readings, which have different names. -/
def boilerEvent : Event := .new "boiler" [.new "temperature" "71", .new "humidity" "40"]

/-- The world after a request that stores an event with two readings. -/
def eventWorld : World Memory :=
  (Request.serve .numbered ⟨.addEvent boilerEvent, 9⟩ ⟨.empty, 0⟩).2

/-- Its readings are stamped with different ids. -/
theorem boilerEvent_ids_nodup :
    ((stamped ⟨9, .numbered⟩ 0 boilerEvent).readings.map Reading.id).Nodup := by
  refine stamped_ids_nodup fun i hi j hj he => ?_
  change i < 2 at hi
  change j < 2 at hj
  have := distinct_numbered (n := 3) (by decide) (0 + 1 + i) (0 + 1 + j) (by omega) (by omega) he
  omega

/-- The request leads to the catalogue with the event and its readings. -/
theorem eventWorld_standsFor :
    eventWorld.StandsFor (eventAdded ⟨9, .numbered⟩ ⟨.empty, 0⟩ boilerEvent) := by
  have added : Yields ⟨9, .numbered⟩ (Operation.addEvent boilerEvent).action ⟨.empty, 0⟩ _ _ :=
    addEvent_yields boilerEvent_ids_nodup (fun _ _ => rfl) rfl
  obtain ⟨n, hserve⟩ := added 0
  exact ⟨n, congrArg Prod.snd hserve⟩

/-- The request leads to that world. -/
theorem reachable_eventWorld : Reachable .numbered eventWorld := by
  have taken : eventWorld.taken = 3 := eventWorld_standsFor.taken_eq
  unfold eventWorld at taken ⊢
  refine .serve _ .start ?_
  rw [taken]
  exact distinct_numbered (by decide)

end Telemetry
