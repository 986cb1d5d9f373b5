import Mathlib.Data.List.Sort
import Telemetry.Proofs.Client.Queries
import Telemetry.Proofs.ObjectId.Order

/-!
# The order in which documents are listed

The store lists documents in the order of their ids. For the additions of one process that is the
order in which they were made as long as the counter of the ids does not wrap between two of them
that get their ids in one second. If it does, the later one comes first.

* `serve_additions` — what additions in a row leave in the store.
* `Keyed.list_putAll_iff` — entities are listed as they were put exactly if their ids increase.
* `listed_in_order_iff` — when the readings and the events are listed as they were added.
-/

namespace Telemetry

open Client
open Telemetry.Action (Yields)

theorem Keyed.putAll_append {α : Type} [Entity α] (s : Keyed α) (as bs : List α) :
    s.putAll (as ++ bs) = (s.putAll as).putAll bs :=
  List.foldl_append ..

/-! ## Additions

Each addition takes its ids when it is made, so the numbers of these ids are known from the
additions before it. An event takes one id for itself and then one for each of its readings. -/

/-- An addition to the store with the time at which it is made. A reading takes one id, and an event
takes one more than it has readings. -/
inductive Addition where
  | reading (r : Reading) (now : Timestamp)
  | event (e : Event) (now : Timestamp)

namespace Addition

/-- The request that an addition is. -/
def request : Addition → Request
  | reading r now => ⟨.addReading r, now⟩
  | event e now => ⟨.addEvent e, now⟩

/-- The number of ids that an addition takes. -/
def size (a : Addition) : Nat := a.request.operation.ids

/-- The readings as they are added, if the next id is the one numbered `first`. -/
def readings (fresh : Nat → ObjectId) (first : Nat) : Addition → List Reading
  | reading r now => [{ r with id := fresh first, created := now }]
  | event e now => (stamped ⟨now, fresh⟩ first e).readings

/-- The events as they are added. -/
def events (fresh : Nat → ObjectId) (first : Nat) : Addition → List Event
  | reading .. => []
  | event e now => [stamped ⟨now, fresh⟩ first e]

/-- The numbers of the ids of the readings. -/
def readingNumbers (first : Nat) : Addition → List Nat
  | reading .. => [first]
  | event e _ => (List.range e.readings.length).map fun i => first + 1 + i

/-- The number of the id of the event, if it is one. It comes before those of the readings. -/
def eventNumbers (first : Nat) : Addition → List Nat
  | reading .. => []
  | event .. => [first]

/-- What additions in a row make, if the next id is the one numbered `first`. The numbers of later
ones begin where those of the earlier ones end. -/
def collect {β : Type} (f : Nat → Addition → List β) : Nat → List Addition → List β
  | _, [] => []
  | first, a :: as => f first a ++ collect f (first + a.size) as

/-- The number of ids that additions take. -/
def total : List Addition → Nat
  | [] => 0
  | a :: as => a.size + total as

/-- The store after additions. -/
def serveAll (fresh : Nat → ObjectId) (as : List Addition) (w : World Memory) : World Memory :=
  as.foldl (fun w a => (a.request.serve fresh w).2) w

/-- What is made of all that is collected can be made of each part. -/
theorem map_collect {β γ : Type} {first : Nat} {as : List Addition}
    {f : Nat → Addition → List β} {f' : Nat → Addition → List γ} {p : β → γ}
    (h : ∀ first a, (f first a).map p = f' first a) :
    (collect f first as).map p = collect f' first as := by
  induction as generalizing first with
  | nil => rfl
  | cons a as ih => rw [collect, List.map_append, h, ih, collect]

/-- Numbers that increase from one bound to below another. Lists with adjoining bounds can be
appended. -/
structure Within (first past : Nat) (numbers : List Nat) : Prop where
  increasing : numbers.Pairwise (· < ·)
  least : ∀ i ∈ numbers, first ≤ i
  below : ∀ i ∈ numbers, i < past

/-- Numbers in adjoining parts are numbers in the whole, and they go on increasing. This is how the
numbers of a run are put together from those of its requests. -/
theorem Within.append {first middle past : Nat} {numbers rest : List Nat}
    (h : Within first middle numbers) (hrest : Within middle past rest) (hle : first ≤ middle)
    (hle' : middle ≤ past) : Within first past (numbers ++ rest) where
  increasing := List.pairwise_append.2 ⟨h.increasing, hrest.increasing, fun i hi j hj =>
    Nat.lt_of_lt_of_le (h.below i hi) (hrest.least j hj)⟩
  least i hi := (List.mem_append.1 hi).elim (h.least i)
    fun hi => Nat.le_trans hle (hrest.least i hi)
  below i hi := (List.mem_append.1 hi).elim
    (fun hi => Nat.lt_of_lt_of_le (h.below i hi) hle') (hrest.below i)

/-- What additions in a row collect is within the ids they take, if each keeps to its own. The parts
adjoin, so the numbers increase over the whole. -/
theorem collect_within {f : Nat → Addition → List Nat}
    (within : ∀ first a, Within first (first + a.size) (f first a)) (first : Nat)
    (as : List Addition) : Within first (first + total as) (collect f first as) := by
  induction as generalizing first with
  | nil => exact ⟨.nil, nofun, nofun⟩
  | cons a as ih =>
    rw [total, ← Nat.add_assoc]
    exact (within first a).append (ih (first + a.size)) (Nat.le_add_right ..)
      (Nat.le_add_right ..)

/-- The numbers of the readings are within the ids that have been taken. -/
theorem readingNumbers_within (as : List Addition) :
    Within 0 (total as) (collect readingNumbers 0 as) := by
  rw [← Nat.zero_add (total as)]
  refine collect_within (fun first a => ?_) 0 as
  cases a with
  | reading r now =>
    refine ⟨List.pairwise_singleton .., fun i hi => ?_, fun i hi => ?_⟩
    · exact Nat.le_of_eq (List.mem_singleton.1 hi).symm
    · exact Nat.lt_succ_of_le (Nat.le_of_eq (List.mem_singleton.1 hi))
  | event e now =>
    have size : (event e now).size = 1 + e.readings.length := rfl
    have bounds : ∀ i ∈ readingNumbers first (event e now),
        first < i ∧ i < first + (event e now).size := by
      intro i hi
      obtain ⟨j, hj, rfl⟩ := List.mem_map.1 hi
      have hj := List.mem_range.1 hj
      omega
    refine ⟨?_, fun i hi => Nat.le_of_lt (bounds i hi).1, fun i hi => (bounds i hi).2⟩
    exact List.pairwise_map.2 (List.pairwise_lt_range.imp fun hlt => by omega)

/-- The numbers of the events are within the ids that have been taken. -/
theorem eventNumbers_within (as : List Addition) :
    Within 0 (total as) (collect eventNumbers 0 as) := by
  rw [← Nat.zero_add (total as)]
  refine collect_within (fun first a => ?_) 0 as
  cases a with
  | reading r now => exact ⟨.nil, nofun, nofun⟩
  | event e now =>
    have size : (event e now).size = 1 + e.readings.length := rfl
    refine ⟨List.pairwise_singleton .., fun i hi => ?_, fun i hi => ?_⟩
    · exact Nat.le_of_eq (List.mem_singleton.1 hi).symm
    · obtain rfl := List.mem_singleton.1 hi
      omega

/-! ## What additions leave in the store -/

section

variable {fresh : Nat → ObjectId} {v : World Catalogue}

/-- What an addition leaves: its readings and its event are put, under ids that it has taken. All
ids in use have then been taken, so the next addition finds its own unused. -/
structure Added (fresh : Nat → ObjectId) (a : Addition) (v v' : World Catalogue) : Prop where
  taken : v'.taken = v.taken + a.size
  readings : v'.store.readings = v.store.readings.putAll (a.readings fresh v.taken)
  events : v'.store.events
    = v.store.events.putAll ((a.events fresh v.taken).map Event.toRecord)
  issued : Issued fresh v'

/-- An addition succeeds if its ids are new, and leaves what it adds. The step of `serve_additions`.
-/
theorem serve_addition (a : Addition) (hi : Issued fresh v)
    (hd : Distinct fresh (v.taken + a.size)) (n : Nat) :
    ∃ v' n', (a.request.serve fresh (v.storing n)).2 = v'.storing n' ∧ Added fresh a v v' := by
  cases a with
  | reading r now =>
    have issued : Issued (Surroundings.mk now fresh).fresh v := hi
    -- ids that differ from all that were taken are free in every collection
    have clear : Clear ⟨now, fresh⟩ v (.addReading r) := issued.clear hd
    have new : v.store.readings.get? (fresh v.taken) = none :=
      Keyed.get?_of_not_has fun h => clear.next Nat.zero_lt_one (.inr (.inl h))
    have outcome : Outcome ⟨now, fresh⟩ v (.addReading r) _ _ := .readingAdded new
    have yields : Yields ⟨now, fresh⟩ (addReading r) v _ _ := addReading_yields r new
    obtain ⟨n', hserve⟩ := yields n
    exact ⟨_, n', congrArg Prod.snd hserve, rfl, rfl, rfl, outcome.issued hi (Nat.le_succ _)⟩
  | event e now =>
    have issued : Issued (Surroundings.mk now fresh).fresh v := hi
    have clear : Clear ⟨now, fresh⟩ v (.addEvent e) := issued.clear hd
    have outcome : Outcome ⟨now, fresh⟩ v (.addEvent e) _ _ := .eventAdded clear.event_new
    obtain ⟨n', hserve⟩ := addEvent_yields clear.nodup (fun _ hr => clear.readings_new hr)
      clear.event_new n
    refine ⟨_, n', congrArg Prod.snd hserve, Nat.add_assoc .., rfl, rfl, outcome.issued hi ?_⟩
    change v.taken ≤ v.taken + 1 + e.readings.length
    omega

/-- Additions in a row put all their readings and all their events. The induction is over the
requests; what carries it is that the ids taken next are not in use. -/
theorem serve_additions (as : List Addition) (hi : Issued fresh v)
    (hd : Distinct fresh (v.taken + total as)) (n : Nat) :
    ∃ (v' : World Catalogue) (n' : Nat), serveAll fresh as (v.storing n) = v'.storing n' ∧
      v'.store.readings
        = v.store.readings.putAll (collect (Addition.readings fresh) v.taken as) ∧
      v'.store.events
        = v.store.events.putAll ((collect (events fresh) v.taken as).map Event.toRecord) := by
  -- on the additions; each finds the ids of those before it in use
  induction as generalizing v n with
  | nil => exact ⟨v, n, rfl, rfl, rfl⟩
  | cons a as ih =>
    rw [total, ← Nat.add_assoc] at hd
    obtain ⟨v₁, n₁, hserve, added⟩ := serve_addition a hi (hd.mono (Nat.le_add_right ..)) n
    rw [← added.taken] at hd
    obtain ⟨v', n', hrest, hreadings, hevents⟩ := ih added.issued hd n₁
    refine ⟨v', n', ?_, ?_, ?_⟩
    · rw [serveAll, List.foldl_cons, hserve]
      exact hrest
    · rw [hreadings, added.readings, added.taken, collect, Keyed.putAll_append]
    · rw [hevents, added.events, added.taken, collect, List.map_append, Keyed.putAll_append]

end

end Addition

/-! ## Listing what has been put

A list is in the order of the ids, whatever the order of putting has been. So the question is when
the ids of additions in a row increase. -/

namespace Keyed

variable {α : Type} [Entity α]

/-- Entities with different ids that are put are listed, in some order. Which order that is depends
on the ids alone. -/
theorem list_putAll_perm {as : List α} (hn : (as.map Entity.id).Nodup) :
    ((∅ : Keyed α).putAll as).list.Perm as := by
  have nodup : ((∅ : Keyed α).putAll as).list.Nodup :=
    (list_increasing _).imp fun {a b} (hlt : (Entity.id a).value < (Entity.id b).value) he => by
      rw [he] at hlt
      exact Nat.lt_irrefl _ hlt
  refine (List.perm_ext_iff_of_nodup nodup hn.of_map).2 fun a => ?_
  rw [mem_list]
  constructor
  · intro ha
    by_cases hmem : Entity.id a ∈ as.map Entity.id
    · obtain ⟨b, hb, hid⟩ := List.mem_map.1 hmem
      rw [← hid, get?_putAll_of_mem ∅ hn b hb] at ha
      rwa [← Option.some.inj ha]
    · rw [get?_putAll_of_notMem as ∅ hmem] at ha
      cases ha
  · exact get?_putAll_of_mem ∅ hn a

/-- Entities are listed as they were put exactly if their ids increase. This is where the order of
the ids and the order of the additions meet. -/
theorem list_putAll_iff {as : List α} (hn : (as.map Entity.id).Nodup) :
    ((∅ : Keyed α).putAll as).list = as ↔ as.Pairwise fun a b => Entity.id a < Entity.id b := by
  constructor
  · intro h
    rw [← h]
    exact list_increasing _
  · intro h
    refine (list_putAll_perm hn).eq_of_pairwise (fun a b _ _ hab hba => ?_) (list_increasing _) h
    exact absurd hba (Nat.lt_asymm hab)

end Keyed

/-- An answer lists what has been added, and it does so in the order of the additions exactly if
`inOrder` holds. -/
def Lists {α : Type} (answer : Except StoreError (List α)) (added : List α) (inOrder : Prop) :
    Prop :=
  ∃ listed, answer = .ok listed ∧ listed.Perm added ∧ (listed = added ↔ inOrder)

/-- The answer is what has been added, in that order, exactly if the condition holds. -/
theorem Lists.eq_added_iff {α : Type} {answer : Except StoreError (List α)} {added : List α}
    {inOrder : Prop} (h : Lists answer added inOrder) : answer = .ok added ↔ inOrder := by
  obtain ⟨listed, rfl, -, same⟩ := h
  rw [← same]
  exact ⟨Except.ok.inj, congrArg _⟩

/-- No two of the numbered ids are of one second with a wrap of the counter in between. This is the
exact condition for the ids to increase. -/
def Unwrapped (g : ObjectId.Generator) (seconds : Nat → Int) (numbers : List Nat) : Prop :=
  numbers.Pairwise fun i j => seconds i = seconds j → ¬g.Wraps i j

instance (g : ObjectId.Generator) (seconds : Nat → Int) (numbers : List Nat) :
    Decidable (Unwrapped g seconds numbers) :=
  inferInstanceAs (Decidable (numbers.Pairwise _))

section

open Addition

variable (g : ObjectId.Generator) {seconds : Nat → Int}

/-- The ids of one generator differ as long as the counter has not come round. -/
theorem distinct_nth {n : Nat} (hn : n ≤ 2 ^ 24) : Distinct (g.nth seconds) n :=
  fun _ _ hi hj => ObjectId.Generator.nth_inj (Nat.lt_of_lt_of_le hi hn) (Nat.lt_of_lt_of_le hj hn)

/-- The ids with increasing numbers increase exactly if the counter does not wrap. Between two
seconds it may wrap, for there the seconds decide. -/
theorem pairwise_nth_iff (hmono : ∀ i j, i ≤ j → seconds i ≤ seconds j)
    (hrange : ∀ i, 0 ≤ seconds i ∧ seconds i < 2 ^ 32) {n : Nat} (hn : n ≤ 2 ^ 24)
    {numbers : List Nat} (within : Within 0 n numbers) :
    ((numbers.map (g.nth seconds)).Pairwise fun a b => a < b) ↔ Unwrapped g seconds numbers := by
  have larger {i j : Nat} (hj : j ∈ numbers) (hij : i < j) :
      g.nth seconds i < g.nth seconds j ↔ (seconds i = seconds j → ¬g.Wraps i j) := by
    have := within.below j hj
    exact ObjectId.Generator.nth_lt_iff (hrange i).1 (hmono i j (Nat.le_of_lt hij)) (hrange j).2
      hij (by omega)
  rw [List.pairwise_map]
  constructor
  · intro h
    exact (h.and within.increasing).imp_of_mem fun _ hj ⟨hlt, hij⟩ => (larger hj hij).1 hlt
  · intro h
    exact (List.Pairwise.and h within.increasing).imp_of_mem fun _ hj ⟨hun, hij⟩ =>
      (larger hj hij).2 hun

end

/-! ## Readings and events -/

namespace Addition

/-- The ids of what is added are the ones with the numbers. -/
theorem ids_readings (fresh : Nat → ObjectId) (first : Nat) (as : List Addition) :
    (collect (readings fresh) first as).map Reading.id
      = (collect readingNumbers first as).map fresh := by
  have ids (first : Nat) (a : Addition) :
      (a.readings fresh first).map Reading.id = (a.readingNumbers first).map fresh := by
    cases a with
    | reading r now => rfl
    | event e now => exact (stamped_ids ..).trans (List.map_map ..).symm
  exact (map_collect ids).trans (map_collect fun _ _ => rfl).symm

/-- The ids of the events are the ones with their numbers. -/
theorem ids_events (fresh : Nat → ObjectId) (first : Nat) (as : List Addition) :
    (collect (events fresh) first as).map Event.id
      = (collect eventNumbers first as).map fresh := by
  have ids (first : Nat) (a : Addition) :
      (a.events fresh first).map Event.id = (a.eventNumbers first).map fresh := by
    cases a <;> rfl
  exact (map_collect ids).trans (map_collect fun _ _ => rfl).symm

/-- The readings of an added event are added. -/
theorem readings_of_mem_events {fresh : Nat → ObjectId} {first : Nat} {as : List Addition}
    {e : Event} (he : e ∈ collect (events fresh) first as) :
    e.readings ⊆ collect (readings fresh) first as := by
  induction as generalizing first with
  | nil => cases he
  | cons a as ih =>
    rcases List.mem_append.1 he with he | he
    · cases a with
      | reading r now => cases he
      | event e' now =>
        obtain rfl := List.mem_singleton.1 he
        exact List.subset_append_left ..
    · exact List.subset_append_of_subset_right _ (ih he)

end Addition

section

open Addition

variable {c : Catalogue} {rs : List Reading} {es : List Event}

/-- An event whose readings have been put is loaded as it is, with the readings in its own order and
not in that of the store. -/
theorem event_of_putAll (hreadings : c.readings = (∅ : Keyed Reading).putAll rs)
    (hn : (rs.map Reading.id).Nodup) {e : Event} (he : e.readings ⊆ rs) :
    c.event e.toRecord = e := by
  have found : (e.readings.map Reading.id).filterMap c.readings.get? = e.readings := by
    rw [List.filterMap_map, hreadings]
    have get (r : Reading) (hr : r ∈ e.readings) :
        (((∅ : Keyed Reading).putAll rs).get? ∘ Reading.id) r = some r :=
      Keyed.get?_putAll_of_mem ∅ hn r (he hr)
    rw [List.filterMap_congr get, List.filterMap_some]
  exact (congrArg e.toRecord.toEvent found).trans e.toRecord_toEvent

/-- Events that have been put with their readings are listed as they were put exactly if their ids
increase. -/
theorem lists_events (hreadings : c.readings = (∅ : Keyed Reading).putAll rs)
    (hn : (rs.map Reading.id).Nodup)
    (hevents : c.events = (∅ : Keyed EventRecord).putAll (es.map Event.toRecord))
    (hn' : (es.map Event.id).Nodup) (hsub : ∀ e ∈ es, e.readings ⊆ rs) :
    Lists (.ok (c.events.list.map c.event)) es
      ((es.map Event.id).Pairwise fun a b => a < b) := by
  -- the records are what is stored; each of them loads as the event it was made from
  have loaded : (es.map Event.toRecord).map c.event = es := by
    rw [List.map_map]
    exact (List.map_congr_left fun e he => event_of_putAll hreadings hn (hsub e he)).trans
      (List.map_id es)
  have ids : (es.map Event.toRecord).map Entity.id = es.map Event.id := List.map_map ..
  have records : ((es.map Event.toRecord).map Entity.id).Nodup := ids ▸ hn'
  have kept (l : List EventRecord) :
      (l.map c.event).map Event.id = l.map Entity.id := List.map_map ..
  refine ⟨_, rfl, ?_, ?_⟩
  · have perm := (Keyed.list_putAll_perm records).map c.event
    rwa [← hevents, loaded] at perm
  -- equal lists have equal ids, and the ids that are listed increase
  constructor
  · intro h
    rw [← h, kept]
    exact List.pairwise_map.2 (Keyed.list_increasing _)
  · intro h
    rw [← ids, List.pairwise_map] at h
    rw [hevents, (Keyed.list_putAll_iff records).2 h, loaded]

/-- Readings that have been put are listed as they were put exactly if their ids increase. -/
theorem lists_readings (hreadings : c.readings = (∅ : Keyed Reading).putAll rs)
    (hn : (rs.map Reading.id).Nodup) :
    Lists (.ok c.readings.list) rs ((rs.map Reading.id).Pairwise fun a b => a < b) := by
  refine ⟨_, rfl, ?_, ?_⟩
  · rw [hreadings]
    exact Keyed.list_putAll_perm hn
  · rw [hreadings, Keyed.list_putAll_iff hn, List.pairwise_map]
    rfl

end

/-! ## Listing after additions -/

section

open Addition

/-- What is asked for after additions to an empty store. -/
def answerAfter (fresh : Nat → ObjectId) (as : List Addition) (q : Request) :
    Except StoreError q.operation.Answer :=
  (q.serve fresh (serveAll fresh as ⟨.empty, 0⟩)).1

variable {fresh : Nat → ObjectId} {as : List Addition}

theorem nodup_ids {n : Nat} (hd : Distinct fresh n) {numbers : List Nat}
    (within : Within 0 n numbers) : (numbers.map fresh).Nodup := by
  refine List.pairwise_map.2 (within.increasing.imp_of_mem fun {i j} hi hj hlt he => ?_)
  exact Nat.ne_of_lt hlt (hd i j (within.below i hi) (within.below j hj) he)

/-- After additions readings and events are listed in the order of the additions exactly if the ids
that these have taken increase. -/
theorem lists_answers (as : List Addition) (hd : Distinct fresh (total as)) (now : Timestamp) :
    Lists (answerAfter fresh as ⟨.readings, now⟩) (collect (readings fresh) 0 as)
        (((collect readingNumbers 0 as).map fresh).Pairwise fun a b => a < b) ∧
      Lists (answerAfter fresh as ⟨.events, now⟩) (collect (events fresh) 0 as)
        (((collect eventNumbers 0 as).map fresh).Pairwise fun a b => a < b) := by
  have distinct : Distinct fresh (0 + total as) := by rwa [Nat.zero_add]
  obtain ⟨v, n, hserve, hreadings, hevents⟩ :=
    serve_additions (v := ⟨.empty, 0⟩) as (issued_empty fresh 0) distinct 0
  have start : (⟨.empty, 0⟩ : World Memory) = World.storing ⟨.empty, 0⟩ 0 := rfl
  -- one run stores everything, and both questions are put to what it leaves
  have answered {q : Request} {r} (h : Yields ⟨q.now, fresh⟩ q.operation.action v r v) :
      answerAfter fresh as q = r := by
    obtain ⟨n', hrun⟩ := h n
    rw [answerAfter, start, hserve, Request.serve, hrun]
  have hn := nodup_ids hd (readingNumbers_within as)
  have hn' := nodup_ids hd (eventNumbers_within as)
  rw [← ids_readings] at hn ⊢
  rw [← ids_events] at hn' ⊢
  rw [answered (q := ⟨.readings, now⟩) readings_yields,
    answered (q := ⟨.events, now⟩) events_yields]
  exact ⟨lists_readings hreadings hn,
    lists_events hreadings hn hevents hn' fun _ he => readings_of_mem_events he⟩

/-- Additions of one process that take fewer than `2 ^ 24` ids are all listed. The readings are in
the order of the additions exactly if the counter of the ids does not wrap between two of them that
have ids of one second, and so are the events. -/
theorem listed_in_order_iff (g : ObjectId.Generator) (seconds : Nat → Int)
    (hmono : ∀ i j, i ≤ j → seconds i ≤ seconds j)
    (hrange : ∀ i, 0 ≤ seconds i ∧ seconds i < 2 ^ 32) (few : total as < 2 ^ 24)
    (now : Timestamp) :
    Lists (answerAfter (g.nth seconds) as ⟨.readings, now⟩)
        (collect (readings (g.nth seconds)) 0 as)
        (Unwrapped g seconds (collect readingNumbers 0 as)) ∧
      Lists (answerAfter (g.nth seconds) as ⟨.events, now⟩)
        (collect (events (g.nth seconds)) 0 as)
        (Unwrapped g seconds (collect eventNumbers 0 as)) := by
  have few := Nat.le_of_lt few
  rw [← pairwise_nth_iff g hmono hrange few (readingNumbers_within as),
    ← pairwise_nth_iff g hmono hrange few (eventNumbers_within as)]
  exact lists_answers as (distinct_nth g few) now

/-- A reading that is added before an event with two readings. -/
def readingThenEvent : List Addition :=
  [.reading (.new "pressure" "3") 5, .event boilerEvent 9]

/-- A process whose counter wraps after the next id. The low three bytes are all ones. -/
def wrapping : ObjectId.Generator := ⟨0, 0xffffff⟩

/-- A clock that goes on by a second after the first id. -/
def clockAfterFirst (i : Nat) : Int := if i = 0 then 0 else 1

theorem clockAfterFirst_mono (i j : Nat) (h : i ≤ j) : clockAfterFirst i ≤ clockAfterFirst j := by
  unfold clockAfterFirst
  split <;> split <;> omega

theorem clockAfterFirst_range (i : Nat) : 0 ≤ clockAfterFirst i ∧ clockAfterFirst i < 2 ^ 32 := by
  unfold clockAfterFirst
  split <;> decide

/-- The counter wraps between the two, but in the next second. -/
theorem listed_in_order_of_readingThenEvent :
    (∀ i j, i ≤ j → clockAfterFirst i ≤ clockAfterFirst j) ∧
      (∀ i, 0 ≤ clockAfterFirst i ∧ clockAfterFirst i < 2 ^ 32) ∧
      total readingThenEvent < 2 ^ 24 ∧ wrapping.Wraps 0 1 ∧
      answerAfter (wrapping.nth clockAfterFirst) readingThenEvent ⟨.readings, 0⟩
        = .ok (collect (readings (wrapping.nth clockAfterFirst)) 0 readingThenEvent) ∧
      answerAfter (wrapping.nth clockAfterFirst) readingThenEvent ⟨.events, 0⟩
        = .ok (collect (events (wrapping.nth clockAfterFirst)) 0 readingThenEvent) := by
  have few : total readingThenEvent < 2 ^ 24 := by decide
  obtain ⟨listsReadings, listsEvents⟩ :=
    listed_in_order_iff wrapping clockAfterFirst clockAfterFirst_mono clockAfterFirst_range few 0
  exact ⟨clockAfterFirst_mono, clockAfterFirst_range, few, by decide,
    listsReadings.eq_added_iff.2 (by decide), listsEvents.eq_added_iff.2 (by decide)⟩

/-- Within one second the readings of the event are listed first. They have been stored last, and
their ids are the smaller ones, since the counter has started again from zero. -/
theorem listed_out_of_order :
    ¬∀ (g : ObjectId.Generator) (seconds : Nat → Int) (as : List Addition) (now : Timestamp),
      (∀ i j, i ≤ j → seconds i ≤ seconds j) → (∀ i, 0 ≤ seconds i ∧ seconds i < 2 ^ 32) →
      total as < 2 ^ 24 →
      answerAfter (g.nth seconds) as ⟨.readings, now⟩
          = .ok (collect (readings (g.nth seconds)) 0 as) ∧
        answerAfter (g.nth seconds) as ⟨.events, now⟩
          = .ok (collect (events (g.nth seconds)) 0 as) := by
  intro h
  have few : total readingThenEvent < 2 ^ 24 := by decide
  obtain ⟨inOrder, -⟩ := h wrapping (fun _ => 0) readingThenEvent 0
    (fun _ _ _ => Int.le_refl 0) (fun _ => by decide) few
  obtain ⟨lists, -⟩ :=
    lists_answers readingThenEvent (distinct_nth wrapping (Nat.le_of_lt few)) 0
  have increasing := lists.eq_added_iff.1 inOrder
  -- the first reading has the counter value `0xffffff`, the second one the value `1`
  revert increasing
  decide

end

end Telemetry
