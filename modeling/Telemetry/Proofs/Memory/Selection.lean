import Mathlib.Data.List.Basic
import Mathlib.Data.List.Forall2
import Telemetry.Proofs.Catalogue
import Telemetry.Proofs.Client.Loading
import Telemetry.Proofs.Memory.NameUniqueness

/-!
# Five ways to select the same documents

A listing with or without a limit, a look-up of one document, a count and a deletion each choose the
documents of a collection that satisfy a filter, and each does so in its own way: by taking from the
listing, by its length, by what is left of the table. All of them choose the same documents.

* `Selects` — what it means that a list is the selection of a filter from a table: every document
  that satisfies it, once, in the order of the ids.
* `SeenAlike` — the answers of the operations, each read off the selection.
* `Joined` — a filter joined from conjuncts two at a time. How they are grouped and in which order
  they come decides nothing, since filters that hold of the same documents are not told apart.
-/

namespace Telemetry

open Program

namespace Filter

/-! ## Conjunctions -/

/-- A conjunction holds where each part does. -/
theorem holds_and (fs : List Filter) (d : Document) :
    (Filter.and fs).holds d = fs.all fun f => f.holds d := by
  rw [holds]
  induction fs with
  | nil => rfl
  | cons f fs ih => rw [allHold, ih, List.all_cons]

/-- A filter that is joined from conjuncts two at a time, with any grouping. -/
inductive Joined : List Filter → Filter → Prop where
  | one (f : Filter) : Joined [f] f
  | also {fs gs : List Filter} {f g : Filter} (left : Joined fs f) (right : Joined gs g) :
      Joined (fs ++ gs) (f.also g)

/-- A joined filter holds where each of its conjuncts does. -/
theorem Joined.holds_eq {fs : List Filter} {f : Filter} (h : Joined fs f) (d : Document) :
    f.holds d = fs.all fun f => f.holds d := by
  induction h with
  | one f => simp
  | also _ _ left right => rw [holds_also, left, right, List.all_append]

/-- A filter joined from the parts of a conjunction, in whatever order, holds where it does. -/
theorem Joined.holds_eq_and {fs conjuncts : List Filter} {f : Filter} (h : Joined fs f)
    (same : ∀ g, g ∈ fs ↔ g ∈ conjuncts) : f.holds = (Filter.and conjuncts).holds := by
  funext d
  rw [h.holds_eq, holds_and, Bool.eq_iff_iff, List.all_eq_true, List.all_eq_true]
  simp only [same]

end Filter

namespace Memory

variable {m : Memory} {c : Collection} {f g : Filter}

/-! ## The selection -/

/-- A list has the documents of a table that satisfy a filter: those under some ids, in increasing
order, which are the ids of all such documents. -/
def Selects (t : Table) (f : Filter) (found : List Document) : Prop :=
  ∃ ids : List ObjectId, ids.Pairwise (· < ·) ∧
    (∀ k, k ∈ ids ↔ ∃ d, t.get? k = some d ∧ f.holds d = true) ∧
    List.Forall₂ (fun k d => t.get? k = some d ∧ d.id = .ok k) ids found

/-- The selection is the filtered table, in the order of the ids and with each document once. -/
theorem selects_select (h : Lawful c (m.table c)) (f : Filter) :
    Selects (m.table c) f (m.select c f) := by
  -- the listing is read off the entries, so the ids are those of the entries that are kept
  let kept := (m.table c).entries.filter fun e => f.holds e.2
  have stored {e : ObjectId × Document} (he : e ∈ kept) : (m.table c).get? e.1 = some e.2 :=
    OrderedMap.mem_entries.1 (List.mem_of_mem_filter he)
  have values : m.select c f = kept.map (·.2) := List.filter_map
  refine ⟨kept.map (·.1), ?_, fun k => ?_, ?_⟩
  · have increasing := OrderedMap.filter_increasing (fun e => f.holds e.2) (m.table c).increasing
    exact List.pairwise_map.2 (increasing.imp Nat.compare_eq_lt.1)
  · constructor
    · intro hk
      obtain ⟨e, he, rfl⟩ := List.mem_map.1 hk
      exact ⟨e.2, stored he, (List.mem_filter.1 he).2⟩
    · rintro ⟨d, hd, hf⟩
      exact List.mem_map.2 ⟨(k, d), List.mem_filter.2 ⟨OrderedMap.mem_entries.2 hd, hf⟩, rfl⟩
  · rw [values, List.forall₂_map_left_iff, List.forall₂_map_right_iff]
    exact List.forall₂_same.2 fun e he => ⟨stored he, h.carries e.1 e.2 (stored he)⟩

/-! ## Answers of an open store -/

/-- The store after one more call that has changed no table. -/
def called (m : Memory) : Memory := { m with calls := m.calls + 1 }

/-- Counting the call does not change what is selected. -/
theorem select_called (m : Memory) (c : Collection) (f : Filter) :
    m.called.select c f = m.select c f := by
  rw [select, called, table_calls]
  rfl

/-- What a deletion takes from a table is the selection: the number it tells is the difference in
size, and that is the number of the selected documents. -/
theorem deleteAll_eq (m : Memory) (c : Collection) (f : Filter) :
    m.deleteAll c f
      = (.ok (m.count c f), m.setTable c ((m.table c).filter fun d => !f.holds d)) := by
  have size (t : Table) : t.size = t.values.length := (List.length_map ..).symm
  have split := (m.table c).values.length_eq_length_filter_add f.holds
  have number : (m.table c).size - ((m.table c).filter fun d => !f.holds d).size
      = (m.select c f).length := by
    rw [size, size, OrderedMap.values_filter, select]
    omega
  rw [deleteAll, count, number]

section

variable (hopen : m.closed = false)

include hopen

/-- A query of an open store gives what is selected, up to its limit, and only counts as a call. -/
theorem answer_find (limit : Option UInt64) :
    answer (.find c f limit) m = (.ok (m.find c f limit), m.called) := by
  have run : answer (.find c f limit) m = (.ok (m.called.find c f limit), m.called) :=
    whenOpen_of_open hopen _
  rw [run]
  simp only [Memory.find, select_called]

theorem answer_count : answer (.count c f) m = (.ok (m.count c f), m.called) := by
  have run : answer (.count c f) m = (.ok (m.called.count c f), m.called) :=
    whenOpen_of_open hopen _
  rw [run, Memory.count, select_called]
  rfl

/-- A deletion gives the number that a count would have given, and leaves what the filter does not
hold of. -/
theorem answer_deleteAll : answer (.deleteAll c f) m = (.ok (m.count c f),
    m.called.setTable c ((m.table c).filter fun d => !f.holds d)) := by
  have run : answer (.deleteAll c f) m = m.called.deleteAll c f :=
    whenOpen_of_open hopen fun m => m.deleteAll c f
  rw [run, deleteAll_eq, Memory.count, select_called, called, table_calls]
  rfl

/-- After a deletion the store is open, and what a filter selects there it has selected before,
among the documents that are kept. -/
theorem deleteAll_leaves :
    (answer (.deleteAll c f) m).2.closed = false ∧
    (∀ g, (answer (.deleteAll c f) m).2.select c g
      = ((m.select c g).filter fun d => !f.holds d)) ∧
    ∀ c', c' ≠ c → (answer (.deleteAll c f) m).2.table c' = m.table c' := by
  rw [answer_deleteAll hopen]
  refine ⟨?_, fun g => ?_, fun c' hc => ?_⟩
  · cases c <;> exact hopen
  · rw [select, table_setTable, if_pos rfl, OrderedMap.values_filter, List.filter_filter, select,
      List.filter_filter]
    exact List.filter_congr fun d _ => Bool.and_comm ..
  · rw [table_setTable, if_neg hc, called, table_calls]

end

/-! ## One selection -/

/-- What the operations that select documents answer in a store, and what a deletion leaves, given
the documents that are the selection of the filter. -/
structure SeenAlike (m : Memory) (c : Collection) (f : Filter) (found : List Document) : Prop where
  selects : Selects (m.table c) f found
  find : answer (.find c f none) m = (.ok found, m.called)
  findLimit : ∀ n, answer (.find c f (some n)) m = (.ok (found.take n.toNat), m.called)
  findOne : ∀ around taken, exec backend around (Action.findOne c f) ⟨m, taken⟩
    = (orNotFound found.head?, ⟨m.called, taken⟩)
  count : answer (.count c f) m = (.ok (.ofNat found.length), m.called)
  deleteAll : (answer (.deleteAll c f) m).1 = .ok (.ofNat found.length)
  /-- both numbers are the length itself, unless the collection has outgrown the machine -/
  counted : (m.table c).size < 2 ^ 64 → (UInt64.ofNat found.length).toNat = found.length
  noneLeft : (answer (.count c f) (answer (.deleteAll c f) m).2).1 = .ok 0
  othersLeft : ∃ docs, (answer (.find c .all none) m).1 = .ok docs ∧
    (answer (.find c .all none) (answer (.deleteAll c f) m).2).1
      = .ok (docs.filter fun d => !f.holds d)
  otherTables : ∀ c', c' ≠ c → (answer (.deleteAll c f) m).2.table c' = m.table c'

/-- A query for one document gives the first of the selected ones. -/
theorem exec_findOne (hopen : m.closed = false) (around : Surroundings) (taken : Nat) :
    exec backend around (Action.findOne c f) ⟨m, taken⟩
      = (orNotFound (m.select c f).head?, ⟨m.called, taken⟩) := by
  have first : m.find c f (some 1) = (m.select c f).take 1 := rfl
  rw [Action.findOne, exec_bind, Action.exec_find around (w := ⟨m, taken⟩) hopen, first]
  cases m.select c f <;> rfl

/-- A query, a count and a deletion each go over the table with the filter. In an open store that is
lawful they see one selection, and each answer can be computed from it. -/
theorem seenAlike_of_lawful (h : Lawful c (m.table c)) (hopen : m.closed = false) (f : Filter) :
    SeenAlike m c f (m.select c f) := by
  obtain ⟨hopen', left, others⟩ := deleteAll_leaves (c := c) (f := f) hopen
  refine {
    selects := selects_select h f
    find := answer_find hopen none
    findLimit := fun n => answer_find hopen (some n)
    findOne := exec_findOne hopen
    count := answer_count hopen
    deleteAll := ?_
    counted := fun hsize => ?_
    noneLeft := ?_
    othersLeft := ⟨m.select c .all, ?_, ?_⟩
    otherTables := others }
  · rw [answer_deleteAll hopen]
    rfl
  · have few : (m.select c f).length ≤ (m.table c).size :=
      Nat.le_trans (List.length_filter_le ..) (Nat.le_of_eq (List.length_map ..))
    rw [UInt64.toNat_ofNat', Nat.mod_eq_of_lt (by omega)]
  · -- what satisfies the filter is not among the documents that are kept
    have none : (m.select c f).filter (fun d => !f.holds d) = [] := by
      rw [select, List.filter_filter]
      simp
    rw [answer_count hopen', Memory.count, left, none]
    rfl
  · rw [answer_find hopen]
    rfl
  · rw [answer_find hopen']
    exact congrArg _ (left .all)

/-! ## One filter for another -/

/-- No operation tells a filter from another one: they select, count and delete the same. -/
structure Interchangeable (m : Memory) (c : Collection) (f g : Filter) : Prop where
  find : ∀ limit, answer (.find c f limit) m = answer (.find c g limit) m
  findOne : ∀ around taken, exec backend around (Action.findOne c f) ⟨m, taken⟩
    = exec backend around (Action.findOne c g) ⟨m, taken⟩
  count : answer (.count c f) m = answer (.count c g) m
  deleteAll : answer (.deleteAll c f) m = answer (.deleteAll c g) m

/-- Filters that hold of the same documents are interchangeable. Nothing in the store looks at how a
filter is written. -/
theorem interchangeable_of_holds (hopen : m.closed = false) (h : f.holds = g.holds) :
    Interchangeable m c f g := by
  have same : m.select c f = m.select c g := by
    rw [select, h, select]
  have number : m.count c f = m.count c g := by
    rw [Memory.count, same, Memory.count]
  refine ⟨fun limit => ?_, fun around taken => ?_, ?_, ?_⟩
  · rw [answer_find hopen, answer_find hopen]
    simp only [Memory.find, same]
  · rw [exec_findOne hopen, exec_findOne hopen, same]
  · rw [answer_count hopen, answer_count hopen, number]
  · rw [answer_deleteAll hopen, answer_deleteAll hopen, number, h]

/-- **One selection**: in every open store that calls on an empty one can lead to, with whatever
documents they have inserted, the five operations see the same documents, those that satisfy the
filter; and a conjunction can be joined from its parts in any order and with any grouping. -/
theorem one_selection (calls : List Call) (hopen : (empty.after calls).closed = false)
    (c : Collection) :
    (∀ f, ∃ found, SeenAlike (empty.after calls) c f found) ∧
    ∀ conjuncts fs f, Filter.Joined fs f → (∀ g, g ∈ fs ↔ g ∈ conjuncts) →
      Interchangeable (empty.after calls) c f (.and conjuncts) := by
  constructor
  · intro f
    exact ⟨_, seenAlike_of_lawful (lawful_after calls c) hopen f⟩
  · intro conjuncts fs f joined same
    exact interchangeable_of_holds hopen (joined.holds_eq_and same)

/-- A document that has an id and a device only. -/
def deviceDocument (id device : String) : Document :=
  .ofFields [("device", .string device), ("id", .string id)]

/-- Two documents of a pump and one of a boiler, inserted against the order of their ids. So the
order of a selection is not the one in which they were inserted. -/
def pumpsAndBoiler : List Call := [.insert .readings
  [deviceDocument "000000000000000000000003" "pump",
    deviceDocument "000000000000000000000002" "boiler",
    deviceDocument "000000000000000000000001" "pump"]]

/-- The readings of the pump. -/
def atPump : Filter := .eq "device" (.string "pump")

/-- The documents of the pump are seen alike, and it is all one where the condition on the pump
stands in a conjunction. -/
theorem one_selection_of_pumps :
    (empty.after pumpsAndBoiler).closed = false ∧
      (∃ found, SeenAlike (empty.after pumpsAndBoiler) .readings atPump found ∧
        found.map (fun d => d.id.toOption) = [some ⟨1, by decide⟩, some ⟨3, by decide⟩]) ∧
      Interchangeable (empty.after pumpsAndBoiler) .readings (atPump.also .all)
        (.and [.all, atPump]) := by
  have hopen : (empty.after pumpsAndBoiler).closed = false := by rfl
  obtain ⟨seen, joined⟩ := one_selection pumpsAndBoiler hopen .readings
  obtain ⟨found, hfound⟩ := seen atPump
  have selected : found = (empty.after pumpsAndBoiler).select .readings atPump := by
    have h := (answer_find hopen none).symm.trans hfound.find
    exact (Except.ok.inj (congrArg Prod.fst h)).symm
  refine ⟨hopen, ⟨found, hfound, ?_⟩, joined [.all, atPump] [atPump, .all] _
    (.also (.one _) (.one _)) fun g => ?_⟩
  · rw [selected]
    decide +kernel
  · simp only [List.mem_cons, List.not_mem_nil, or_false]
    exact or_comm

end Memory

end Telemetry
