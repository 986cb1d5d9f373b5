import Telemetry.Proofs.Client.Runs
import Telemetry.Proofs.Sql.Parameters

/-!
# What becomes of a limit

Seven operations list what is stored up to a limit. The limit is an unsigned word all the way to the
store. A limit of zero is answered without it; of the in-memory store the first documents are taken;
the SQL store binds the limit as a signed word at the end of its statement, and the upper half of
the range becomes negative there.

* `LimitedList` — the seven operations, each a limited query for documents and the loading of these.
* `limit_of_each_store` — what a limit means before and in each of the two stores.
* `limit_bound_negative` — a limit that is not bound as the number it is.
-/

namespace Telemetry

open Client Program
open Telemetry.Action (Yields)

/-! ## The operations -/

/-- A list that is asked for with a limit. There are seven of them, two of events and five of
readings. -/
inductive LimitedList where
  | readingsByDevice (device : String)
  | readingsByValueDescriptor (name : String)
  | readingsByValueDescriptorNames (names : List String)
  | readingsByCreationTime (start stop : Timestamp)
  | readingsByDeviceAndValueDescriptor (device name : String)
  | eventsForDevice (device : String)
  | eventsByCreationTime (start stop : Timestamp)

namespace LimitedList

/-- What is listed. -/
abbrev Item : LimitedList → Type
  | eventsForDevice .. | eventsByCreationTime .. => Event
  | _ => Reading

/-- The operation with a limit. -/
def query : (l : LimitedList) → UInt64 → Action (List l.Item)
  | readingsByDevice device => Client.readingsByDevice device
  | readingsByValueDescriptor name => Client.readingsByValueDescriptor name
  | readingsByValueDescriptorNames names => Client.readingsByValueDescriptorNames names
  | readingsByCreationTime start stop => Client.readingsByCreationTime start stop
  | readingsByDeviceAndValueDescriptor device name =>
    Client.readingsByDeviceAndValueDescriptor device name
  | eventsForDevice device => Client.eventsForDeviceLimit device
  | eventsByCreationTime start stop => Client.eventsByCreationTime start stop

/-- The collection that is asked. -/
def collection : LimitedList → Collection
  | eventsForDevice .. | eventsByCreationTime .. => .events
  | _ => .readings

/-- The documents that are asked for. -/
def filter : LimitedList → Filter
  | readingsByDevice device | eventsForDevice device => .eq "device" (.string device)
  | readingsByValueDescriptor name => .eq "name" (.string name)
  | readingsByValueDescriptorNames names => .among "name" (names.map .string)
  | readingsByCreationTime start stop | eventsByCreationTime start stop =>
    .range "created" (.included start) (.included stop)
  | readingsByDeviceAndValueDescriptor device name =>
    .also (.eq "device" (.string device)) (.eq "name" (.string name))

/-- What is made of the documents: they are decoded, and events are given their readings. -/
def load : (l : LimitedList) → List Document → Action (List l.Item)
  | eventsForDevice _ | eventsByCreationTime .. => loadEvents
  | readingsByDevice _ | readingsByValueDescriptor _ | readingsByValueDescriptorNames _
  | readingsByCreationTime .. | readingsByDeviceAndValueDescriptor .. =>
    fun docs => Action.ofExcept (Document.decodeAll Reading.decoder docs)

theorem query_eq (l : LimitedList) (n : UInt64) :
    l.query n = Action.findLimit l.collection l.filter n >>= l.load := by
  cases l <;> rfl

variable (l : LimitedList)

/-! ## A limit of zero -/

/-- No documents make an empty list, without a further call. -/
theorem load_nil : (l.load []).run = done (.ok []) := by
  cases l with
  | eventsForDevice | eventsByCreationTime => exact loadEvents_nil
  | _ => rfl

/-- For a limit of zero the empty list is the answer before anything is done. The store is not
asked, so it may even be closed. -/
theorem query_zero : (l.query 0).run = done (.ok []) := by
  rw [query_eq]
  exact l.load_nil

/-! ## The first documents

The in-memory store takes the limit as it is. What a limited query answers is the beginning of what
the same query would answer without a limit. -/

/-- The in-memory store gives the first of the documents that are asked for. -/
theorem exec_query {n : UInt64} (hn : n ≠ 0) {w : World Memory} (hopen : w.store.closed = false)
    (around : Surroundings) :
    exec Memory.backend around (l.query n) w
      = exec Memory.backend around
          (l.load ((w.store.select l.collection l.filter).take n.toNat)) (w.called 1) := by
  rw [query_eq, exec_bind, Action.findLimit, if_neg hn, Action.exec_find around hopen]
  rfl

/-- In a catalogue each of the documents is one item of the list, so the limit on documents is one
on the items. -/
theorem query_yields (v : World Catalogue) (calls : Nat) :
    ∃ items : List l.Item,
      items.length = ((v.storing calls).store.select l.collection l.filter).length ∧
      ∀ around n, Yields around (l.query n) v (.ok (items.take n.toNat)) v := by
  -- the lists are of two kinds, and within a kind they differ in their filters alone
  have readings (f : Filter) : ∃ items : List Reading,
      items.length = ((v.storing calls).store.select .readings f).length ∧
      ∀ around n, Yields around (getReadingsLimit f n) v (.ok (items.take n.toNat)) v := by
    refine ⟨_, ?_, fun around n => getReadingsLimit_yields (fun _ => rfl) n⟩
    rw [Memory.select_list (s := v.store.readings) rfl fun _ => rfl, List.length_map]
    rfl
  have events (f : Filter) : ∃ items : List Event,
      items.length = ((v.storing calls).store.select .events f).length ∧
      ∀ around n, Yields around (getEventsLimit f n) v (.ok (items.take n.toNat)) v := by
    let found := v.store.events.list.filter fun e => f.holds e.toDocument
    refine ⟨found.map v.store.event, ?_, fun around n => ?_⟩
    · rw [Memory.select_list (s := v.store.events) rfl fun _ => rfl, List.length_map,
        List.length_map]
      rfl
    · rw [← List.map_take]
      exact getEventsLimit_yields (fun _ => rfl) n
  cases l with
  | eventsForDevice | eventsByCreationTime => exact events _
  | _ => exact readings _

/-- In every open store that requests reach, each of the documents is one item of the list. A limit
beyond their number gives all of them. -/
theorem query_reached {fresh : Nat → ObjectId} {w : World Memory} (h : Reached fresh w)
    (hopen : w.store.closed = false) :
    ∃ items : List l.Item, items.length = (w.store.select l.collection l.filter).length ∧
      ∀ around n, (exec Memory.backend around (l.query n) w).1
        = .ok (items.take (min n.toNat items.length)) := by
  obtain ⟨v, calls, rfl⟩ := h.storing hopen
  obtain ⟨items, hlength, hquery⟩ := l.query_yields v calls
  refine ⟨items, hlength, fun around n => ?_⟩
  obtain ⟨calls', hrun⟩ := hquery around n calls
  rw [hrun, List.take_eq_take_min]

end LimitedList

namespace Sql

/-! ## The limit of a statement

The limit is bound behind all other values. Whether a statement has one can be seen from its text,
which ends in `LIMIT ?` or in the order of the rows. -/

/-- A statement ends in a limit, and the last of its values is what is bound for that. It is told by
the text, so a limit cannot be hidden. -/
def Statement.EndsInLimit (s : Statement) (n : Int64) : Prop :=
  ∃ front params, s.text = front ++ " LIMIT ?" ∧ s.params = params ++ [.integer n]

/-- A statement ends in the order of its rows. -/
def Statement.Unlimited (s : Statement) : Prop := ∃ front, s.text = front ++ " ORDER BY seq"

/-- A statement that ends in the order of its rows has no limit behind it. -/
theorem Statement.Unlimited.not_endsInLimit {s : Statement} (h : s.Unlimited) (n : Int64) :
    ¬s.EndsInLimit n := by
  rintro ⟨front', params, ht, -⟩
  obtain ⟨front, hf⟩ := h
  have last := congrArg (fun t => t.toList.getLast?) (hf.symm.trans ht)
  simp at last

/-- A query is its condition with a beginning and an end. -/
theorem select_eq_ok {c : Collection} {f : Filter} {limit : Option UInt64} {s : Statement}
    (h : select c f limit = .ok s) : ∃ front : List Piece, s = .ofPieces (front ++
      .words " ORDER BY seq" :: match limit with
        | some n => [.words " LIMIT ", .slot (.integer n.toInt64)]
        | none => []) := by
  obtain ⟨condition, -, h⟩ := ok_of_bind h
  exact ⟨_, (Except.ok.inj h).symm⟩

section

variable {c : Collection} {f : Filter} {s : Statement}

/-- A statement has one limit at most, for it is the last of its values. -/
theorem Statement.EndsInLimit.unique {n m : Int64} (hn : s.EndsInLimit n) (hm : s.EndsInLimit m) :
    n = m := by
  obtain ⟨-, params, -, hparams⟩ := hn
  obtain ⟨-, params', -, hparams'⟩ := hm
  have last := List.append_inj_right' (hparams.symm.trans hparams') rfl
  exact Param.integer.inj (List.singleton_inj.1 last)

/-- A query with a limit ends in it, and what is bound is the limit as a signed word. -/
theorem select_some_endsInLimit {n : UInt64} (h : select c f (some n) = .ok s) :
    s.EndsInLimit n.toInt64 := by
  obtain ⟨front, rfl⟩ := select_eq_ok h
  refine ⟨String.join (texts front) ++ " ORDER BY seq", values front, ?_, ?_⟩
  · have ending : String.join (texts [.words " ORDER BY seq", .words " LIMIT ",
        .slot (.integer n.toInt64)]) = " ORDER BY seq" ++ " LIMIT ?" := by rfl
    change String.join (texts (front ++ _)) = _
    rw [texts_append, String.join_append, ending, String.append_assoc]
  · exact values_append ..

/-- A query without a limit ends in the order of its rows. -/
theorem select_none_unlimited (h : select c f none = .ok s) : s.Unlimited := by
  obtain ⟨front, rfl⟩ := select_eq_ok h
  refine ⟨String.join (texts front), ?_⟩
  have ending : String.join (texts [.words " ORDER BY seq"]) = " ORDER BY seq" := by rfl
  change String.join (texts (front ++ _)) = _
  rw [texts_append, String.join_append, ending]

end

theorem select_limited (l : LimitedList) (n : UInt64) :
    ∃ s, select l.collection l.filter (some n) = .ok s := by
  cases l with
  | readingsByValueDescriptorNames names => exact select_names names n
  | _ => exact ⟨_, rfl⟩

/-- The value that is bound for a limit is that number in the lower half of the range, and negative
in the upper half. -/
theorem toInt_limit (n : UInt64) :
    n.toInt64.toInt = if n.toNat < 2 ^ 63 then (n.toNat : Int) else n.toNat - 2 ^ 64 := by
  have bits : n.toInt64.toInt = n.toBitVec.toInt := rfl
  have high := n.toNat_lt
  rw [bits, BitVec.toInt_eq_toNat_cond, UInt64.toNat_toBitVec]
  split <;> split <;> omega

/-! ## What is sent -/

/-- A query without a limit. -/
def IsUnlimited (c : Call) : Prop := ∃ collection f, c = .find collection f none

/-- The look-ups of readings have no limit of their own. -/
theorem lookUpAll_asks (batches : List (List ObjectId)) (found : OrderedMap ObjectId Reading) :
    (lookUpAll found batches).Asks IsUnlimited := by
  induction batches generalizing found with
  | nil => exact .pure _
  | cons ids batches ih =>
    refine .bind (.bind (.call ⟨_, _, rfl⟩) fun _ => .ofExcept _) fun readings => ih _

theorem load_asks (l : LimitedList) (docs : List Document) : (l.load docs).Asks IsUnlimited := by
  cases l with
  | eventsForDevice | eventsByCreationTime =>
    exact (Action.Asks.ofExcept _).bind fun records => (lookUpAll_asks _ _).bind fun _ => .pure _
  | _ => exact .ofExcept _

section

variable (server : Server) (around : Surroundings) {w : World Session}

/-- If no call of an action has a limit, neither has any statement that it sends. A limit never
comes from the store itself. -/
theorem unlimited_of_mem_log {α : Type} {a : Action α} (ha : a.Asks IsUnlimited) {y : Exchange}
    (hy : y ∈ log server around a w) : y.statement.Unlimited := by
  obtain ⟨⟨c, x⟩, hcall, hy⟩ := List.mem_flatMap.1 hy
  obtain ⟨collection, f, rfl⟩ := ha.calls _ _ _ _ hcall
  rcases exchangesFor_cases (c := .find collection f none) rfl with
    ⟨s, hwritten, hlog, -⟩ | ⟨e, -, hlog, -⟩ <;> rw [hlog] at hy
  · obtain rfl := List.mem_singleton.1 hy
    exact select_none_unlimited (Option.some.inj hwritten)
  · cases hy

/-- A limited query is sent with its limit, and after it only queries without limits are. These are
the look-ups of the readings of events. -/
theorem log_query (l : LimitedList) {n : UInt64} (hn : n ≠ 0) (hready : w.store.link = .ready) :
    ∃ first rest, log server around (l.query n) w = first :: rest ∧
      first.statement.EndsInLimit n.toInt64 ∧ ∀ y ∈ rest, y.statement.Unlimited := by
  obtain ⟨s, hs⟩ := select_limited l n
  let first : Exchange :=
    ⟨.find l.collection l.filter (some n), s, (server w.store).replies.head?⟩
  have asked : log server around (Action.findLimit l.collection l.filter n) w = [first] := by
    rw [Action.findLimit, if_neg hn, log_call]
    exact exchangesFor_written hready (congrArg some hs)
  rw [l.query_eq, log_bind, asked]
  refine ⟨first, _, rfl, select_some_endsInLimit hs, fun y hy => ?_⟩
  split at hy
  · exact unlimited_of_mem_log server around (load_asks l _) hy
  · cases hy

end

/-- What is bound for a limit: the limit itself in the lower half of the range, and a negative number
in the upper half. -/
structure BoundFor (n : UInt64) (value : Int64) : Prop where
  exact_iff : value.toInt = n.toNat ↔ n.toNat < 2 ^ 63
  negative : 2 ^ 63 ≤ n.toNat → value.toInt < 0

/-- A limit as a signed word is what is bound for it. -/
theorem boundFor_toInt64 (n : UInt64) : BoundFor n n.toInt64 := by
  have high := n.toNat_lt
  have value := toInt_limit n
  constructor <;> split at value <;> omega

/-- **Limits in each store.** A limit of zero is answered with the empty list, and no call is made
and no statement sent. For any other limit an open in-memory store gives the first of the documents
that are asked for, as many as the limit says or all of them, and in a store that requests reach
each of these is an item of the list. Over a ready link the limit is bound at the end of the first
statement, as a number of its own in the lower half of the range and as a negative one in the upper
half; no other statement has a limit. -/
theorem limit_of_each_store (l : LimitedList) :
    (∀ {σ : Type} (b : Backend σ) (around : Surroundings) (w : World σ),
      Action.calls b around w (l.query 0) = [] ∧ exec b around (l.query 0) w = (.ok [], w)) ∧
    (∀ server around w, log server around (l.query 0) w = []) ∧
    (∀ n ≠ 0, ∀ around (w : World Memory), w.store.closed = false →
      exec Memory.backend around (l.query n) w
        = exec Memory.backend around
            (l.load ((w.store.select l.collection l.filter).take
              (min n.toNat (w.store.select l.collection l.filter).length))) (w.called 1)) ∧
    (∀ fresh w, Reached fresh w → w.store.closed = false → ∃ items : List l.Item,
      items.length = (w.store.select l.collection l.filter).length ∧
      ∀ around n, (exec Memory.backend around (l.query n) w).1
        = .ok (items.take (min n.toNat items.length))) ∧
    ∀ n ≠ 0, ∀ server around (w : World Session), w.store.link = .ready →
      ∃ first rest value, log server around (l.query n) w = first :: rest ∧
        first.statement.EndsInLimit value ∧ BoundFor n value ∧
        ∀ y ∈ rest, ∀ m, ¬y.statement.EndsInLimit m := by
  refine ⟨fun b around w => ?_, fun server around w => ?_, fun n hn around w hopen => ?_,
    fun fresh w h hopen => l.query_reached h hopen, fun n hn server around w hready => ?_⟩
  · rw [Action.calls, exec, l.query_zero]
    exact ⟨rfl, rfl⟩
  · rw [log, Action.calls, l.query_zero]
    rfl
  · rw [l.exec_query hn hopen, List.take_eq_take_min]
  · obtain ⟨first, rest, hlog, hends, hrest⟩ := log_query server around l hn hready
    exact ⟨first, rest, n.toInt64, hlog, hends, boundFor_toInt64 n,
      fun y hy => (hrest y hy).not_endsInLimit⟩

/-- A limit of two for the readings of a device. -/
theorem limit_of_each_store_of_boiler :
    let l : LimitedList := .readingsByDevice "boiler"
    Reached .numbered eventWorld ∧ eventWorld.store.closed = false ∧
      (∃ items : List Reading,
        items.length = (eventWorld.store.select l.collection l.filter).length ∧
        (exec Memory.backend ⟨12, .numbered⟩ (l.query 2) eventWorld).1
          = .ok (items.take (min 2 items.length))) ∧
      ∃ first rest value, log Session.script ⟨0, .numbered⟩ (l.query 2) ⟨.start .ready, 0⟩
          = first :: rest ∧ first.statement.EndsInLimit value ∧ value.toInt = 2 := by
  intro l
  obtain ⟨-, -, -, listed, sent⟩ := limit_of_each_store l
  obtain ⟨items, hlength, hitems⟩ :=
    listed .numbered eventWorld reachable_eventWorld.reached eventWorld_standsFor.isOpen
  obtain ⟨first, rest, value, hlog, hends, hbound, -⟩ :=
    sent 2 (by decide) Session.script ⟨0, .numbered⟩ ⟨.start .ready, 0⟩ rfl
  exact ⟨reachable_eventWorld.reached, eventWorld_standsFor.isOpen,
    ⟨items, hlength, hitems ⟨12, .numbered⟩ 2⟩, first, rest, value, hlog, hends,
    hbound.exact_iff.2 (by decide)⟩

/-- Not every limit is bound as the number that it is: the first one of the upper half is bound as
the least signed word. -/
theorem limit_bound_negative :
    ¬∀ (l : LimitedList) (n : UInt64), n ≠ 0 → ∀ server around (w : World Session),
      w.store.link = .ready → ∃ first rest value,
        log server around (l.query n) w = first :: rest ∧
          first.statement.EndsInLimit value ∧ value.toInt = n.toNat := by
  intro h
  let n : UInt64 := 9223372036854775808
  obtain ⟨first, rest, value, hlog, hends, hexact⟩ := h (.readingsByDevice "boiler") n (by decide)
    Session.script ⟨0, .numbered⟩ ⟨.start .ready, 0⟩ rfl
  obtain ⟨first', rest', hlog', hends', -⟩ := log_query Session.script ⟨0, .numbered⟩
    (w := ⟨.start .ready, 0⟩) (.readingsByDevice "boiler") (n := n) (by decide) rfl
  obtain ⟨rfl, rfl⟩ := List.cons.inj (hlog.symm.trans hlog')
  rw [hends.unique hends', (boundFor_toInt64 n).exact_iff] at hexact
  exact absurd hexact (by decide)

end Sql

end Telemetry
