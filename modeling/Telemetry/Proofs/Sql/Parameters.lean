import Telemetry.Proofs.Client.FirstCall
import Telemetry.Proofs.Memory.Writes
import Telemetry.Proofs.Sql.Assembly
import Telemetry.Proofs.Sql.FailStop

/-!
# How many values a statement binds

A server takes only so many values in one statement. How many a statement binds is decided by the
call it is sent for: `Call.width` counts them, for documents the most that one part of a batch can
have. Stored documents and looked-up readings go in parts of a thousand, so almost no operation comes
near the limit, whatever its arguments are and whatever the server answers.

One does. The names of descriptors are bound one each, all in the same query, so a long list of
names does not fit.

* `length_params_conditionOf` — a filter binds as many values as `Filter.width` says.
* `length_params_of_mem_log` — what every call of an action keeps to, every statement keeps to.
* `Narrow.operation` — the calls of all operations but one are narrow.
* `within_placeholder_limit_iff` — when an operation keeps to the limit of the server.
-/

namespace Telemetry

open Client

/-! ## The width of a call

How many values a call binds is counted on the call itself, on its filter, its documents or its
update. The lemmas below compare this with the values of the statements. -/

/-- Whether a bound is compared with. -/
def Bound.width : Bound → Nat
  | .included _ | .excluded _ => 1
  | .unbounded => 0

mutual

/-- The number of values that a filter compares with, which is what it costs in placeholders. How
the filter is written makes no difference to it. -/
def Filter.width : Filter → Nat
  | .all => 0
  | .eq .. => 1
  | .range _ lower upper => lower.width + upper.width
  | .among _ values => values.length
  | .and parts => Filter.widthOfAll parts

/-- The number of values that several filters compare with. -/
def Filter.widthOfAll : List Filter → Nat
  | [] => 0
  | f :: fs => f.width + Filter.widthOfAll fs

end

/-- The number of values that an update writes. -/
def Update.width : Update → Nat
  | .replace _ => 1
  | .set fields => fields.size

/-- The largest number of values in a statement for a call. Most calls take one statement; a batch
takes one for every thousand documents. -/
def Call.width : Call → Nat
  | .ping | .close => 0
  | .insert .. => 2 * Sql.insertBatch
  | .find _ f limit => f.width + limit.toList.length
  | .count _ f | .deleteAll _ f => f.width
  | .update _ _ u => u.width + 1
  | .delete .. => 1

namespace Sql

/-! ## The values of a statement -/

theorem length_params_bounds (lower upper : Bound) :
    (lower.params ++ upper.params).length = lower.width + upper.width := by
  cases lower <;> cases upper <;> rfl

mutual

/-- The values of a filter are as many as its width says. -/
theorem length_params_filter : ∀ f : Filter, f.params.length = f.width
  | .all => rfl
  | .eq .. => rfl
  | .range _ lower upper => length_params_bounds lower upper
  | .among _ _ => List.length_map _
  | .and fs => length_params_filters fs

/-- The values of several filters are as many as their widths say, taken together. -/
theorem length_params_filters : ∀ fs : List Filter,
    (Filter.paramsOfAll fs).length = Filter.widthOfAll fs
  | [] => rfl
  | f :: fs => by
    rw [Filter.paramsOfAll, List.length_append, length_params_filter f, length_params_filters fs,
      Filter.widthOfAll]

end

theorem length_params_conditionOf {f : Filter} {c : Condition} (h : conditionOf f = .ok c) :
    (values c.pieces).length = f.width := by
  rw [(conditionOf_assembles h).values, length_params_filter]

/-! ## Statements -/

theorem length_params_words (words : String) (ps : List Piece) :
    (Statement.ofPieces (.words words :: ps)).params.length = (values ps).length := rfl

/-- A query binds the values of its filter, and the limit if there is one. -/
theorem length_params_select {c : Collection} {f : Filter} {limit : Option UInt64}
    {s : Statement} (h : select c f limit = .ok s) :
    s.params.length = f.width + limit.toList.length := by
  obtain ⟨condition, hf, h⟩ := ok_of_bind h
  obtain rfl := Except.ok.inj h
  rw [List.cons_append, length_params_words, values_append, List.length_append,
    length_params_conditionOf hf]
  cases limit <;> rfl

/-- The statements that count and delete end with their condition. -/
theorem length_params_condition {f : Filter} {words : String} {s : Statement}
    (h : (conditionOf f >>= fun c => pure (.ofPieces (.words words :: c.pieces))) = .ok s) :
    s.params.length = f.width := by
  obtain ⟨condition, hf, h⟩ := ok_of_bind h
  obtain rfl := Except.ok.inj h
  rw [length_params_words, length_params_conditionOf hf]

/-- Every field that is set binds its value, and only that: the name stands in the text. -/
theorem length_values_assignments {fields : List (String × Json.Value)} {ps : List Piece}
    (h : assignments fields = .ok ps) : (values ps).length = fields.length := by
  obtain ⟨-, rfl⟩ := of_assignments_eq_ok h
  clear h
  induction fields with
  | nil => rfl
  | cons field fields ih => exact congrArg (· + 1) ih

/-- New content binds one value if it replaces the document, and one for each field otherwise. -/
theorem length_values_newContent {id : ObjectId} {u : Update} {ps : List Piece}
    (h : newContent id u = .ok ps) : (values ps).length = u.width := by
  cases u with
  | replace d =>
    obtain rfl := Except.ok.inj h
    rfl
  | set fields =>
    rw [newContent] at h
    -- without fields the document is set to itself, which takes no value
    split at h
    · next none =>
      obtain rfl := Except.ok.inj h
      rw [List.isEmpty_iff] at none
      rw [Update.width, OrderedMap.size, none]
      rfl
    · obtain ⟨sets, hsets, h⟩ := ok_of_bind h
      obtain rfl := Except.ok.inj h
      rw [List.cons_append, values_words, values_append, List.length_append,
        length_values_assignments hsets]
      rfl

/-- An update binds one value more, the id of its row. -/
theorem length_params_updateRow {c : Collection} {id : ObjectId} {u : Update} {s : Statement}
    (h : updateRow c id u = .ok s) : s.params.length = u.width + 1 := by
  obtain ⟨content, hcontent, h⟩ := ok_of_bind h
  obtain rfl := Except.ok.inj h
  rw [List.cons_append, length_params_words, values_append, List.length_append,
    length_values_newContent hcontent]
  rfl

/-- Every row binds two values, its id and its text. -/
theorem length_params_insertRows (c : Collection) (rows : List Row) :
    (insertRows c rows).params.length = 2 * rows.length := by
  have two : ∀ r : Row, r.params.length = 2 := fun _ => rfl
  rw [insertRows_params, List.length_flatMap]
  simp only [two, List.map_const', List.sum_replicate_nat, Nat.mul_comm]

/-- The statement of a call binds as many values as the call is wide. The width is read off the
call, so statements need not be written to know it. -/
theorem length_params_statementOf {c : Call} {s : Statement} (h : statementOf c = some (.ok s)) :
    s.params.length = c.width := by
  cases c with
  | insert | close => cases h
  | ping | delete =>
    obtain rfl := Except.ok.inj (Option.some.inj h)
    rfl
  | find => exact length_params_select (Option.some.inj h)
  | count | deleteAll => exact length_params_condition (Option.some.inj h)
  | update => exact length_params_updateRow (Option.some.inj h)

/-! ## What is sent -/

/-- What a transaction sends beyond its statements binds nothing: these are the words that begin and
end it. -/
theorem Transaction.mem_trace {x : Session} {ss trace : List Statement}
    {r : Except LinkError Unit} (h : Transaction x ss r trace) {s : Statement} (hs : s ∈ trace) :
    s ∈ ss ∨ s.params = [] := by
  cases h with
  | notBegun =>
    obtain rfl := List.mem_singleton.1 hs
    exact .inr rfl
  | stopped =>
    simp only [List.cons_append, List.mem_cons, List.mem_append, List.not_mem_nil, or_false] at hs
    rcases hs with rfl | hs | rfl
    · exact .inr rfl
    · exact .inl (List.mem_of_mem_take hs)
    · exact .inr rfl
  | notCommitted | committed =>
    simp only [List.cons_append, List.mem_cons, List.mem_append, List.not_mem_nil, or_false] at hs
    rcases hs with rfl | hs | hs
    · exact .inr rfl
    · exact .inl hs
    · rcases hs with rfl | rfl <;> exact .inr rfl

/-- No statement for a call binds more values than the call is wide. A batch is cut into statements,
so its width is that of the largest. -/
theorem length_params_of_mem_exchangesFor {c : Call} {x : Session} {y : Exchange}
    (hy : y ∈ exchangesFor c x) : y.statement.params.length ≤ c.width := by
  -- all calls but two take one statement, and that is as wide as the call
  have single (hs : (statementOf c).isSome) : y.statement.params.length ≤ c.width := by
    rcases exchangesFor_cases (x := x) hs with ⟨s, hwritten, hlog, -⟩ | ⟨e, -, hlog, -⟩
    · rw [hlog] at hy
      obtain rfl := List.mem_singleton.1 hy
      exact Nat.le_of_eq (length_params_statementOf hwritten)
    · rw [hlog] at hy
      cases hy
  cases c with
  | insert c docs =>
    rcases insert_cases c docs x with ⟨-, rows, r, x', trace, he, hsent, hends⟩ | ⟨r, he, -⟩
    · rw [exchangesFor_of_append ((congrArg (fun p => p.2.sent) he).trans hsent)] at hy
      have sent : y.statement ∈ trace := by
        rw [← Script.map_statement_exchanges (.insert c docs) x.script trace]
        exact List.mem_map_of_mem hy
      rcases hends.mem_trace sent with hs | hs
      · obtain ⟨batch, hbatch, hs⟩ := List.mem_map.1 hs
        have short : batch.length ≤ insertBatch := length_le_of_mem_chunks hbatch
        rw [← hs, length_params_insertRows]
        exact Nat.mul_le_mul_left 2 short
      · rw [hs]
        exact Nat.zero_le _
    · rw [exchangesFor_of_unsent (by rw [he])] at hy
      cases hy
  | close =>
    rw [exchangesFor_of_unsent rfl] at hy
    cases hy
  | _ => exact single rfl

/-- If all calls of an action are at most `n` wide, so are the statements that it sends. The answers
of the server do not matter for that. -/
theorem length_params_of_mem_log {α : Type} {server : Server} {around : Surroundings}
    {a : Action α} {n : Nat} (ha : a.Asks (fun c => c.width ≤ n)) {w : World Session} {y : Exchange}
    (hy : y ∈ log server around a w) : y.statement.params.length ≤ n := by
  obtain ⟨⟨c, x⟩, hcall, hy⟩ := List.mem_flatMap.1 hy
  have narrow : c.width ≤ n := ha.calls _ _ _ _ hcall
  exact Nat.le_trans (length_params_of_mem_exchangesFor hy) narrow

/-! ## The calls of operations

An operation makes narrow calls because it looks up ids in batches and compares fields one by one.
The lemmas follow the programs of the client, and only one operation is left out: the list of
readings by names, which binds all of them. -/

/-- How wide the calls of almost all operations are at most: two values for each document in a
part of a batch. -/
def narrowWidth : Nat := 2 * insertBatch

/-- The calls of an action are narrow, whatever the store answers on the way. So no store can bring
the client to write a statement that is too long. -/
abbrev Narrow {α : Type} (a : Action α) : Prop := a.Asks fun c => c.width ≤ narrowWidth

namespace Narrow

variable {α : Type}

open Telemetry.Action

theorem one_le : 1 ≤ narrowWidth := by decide

/-- Two values are the most that the filters of operations compare with, save one. -/
theorem two_le : 2 ≤ narrowWidth := by decide

theorem width_amongIds (ids : List ObjectId) : (amongIds ids).width = ids.length :=
  List.length_map ..

theorem lookUp {ids : List ObjectId} (h : ids.length ≤ lookupBatch) : Narrow (Client.lookUp ids) := by
  refine Asks.bind (.call ?_) fun docs => .ofExcept _
  rw [Call.width, width_amongIds]
  exact Nat.le_trans h (by decide)

/-- Readings are looked up in batches, none of which is too long. -/
theorem lookUpAll {batches : List (List ObjectId)} (h : ∀ ids ∈ batches, ids.length ≤ lookupBatch)
    (found : OrderedMap ObjectId Reading) : Narrow (Client.lookUpAll found batches) := by
  induction batches generalizing found with
  | nil => exact .pure _
  | cons ids batches ih =>
    obtain ⟨hids, hrest⟩ := List.forall_mem_cons.1 h
    exact (lookUp hids).bind fun readings => ih hrest _

/-- However many readings events name, they are looked up in batches. -/
theorem loadEvents (docs : List Document) : Narrow (Client.loadEvents docs) := by
  refine (Asks.ofExcept _).bind fun records => ?_
  exact (lookUpAll (fun _ => length_le_of_mem_chunks) ∅).bind fun _ => .pure _

theorem getEvents {f : Filter} (h : f.width ≤ 2) : Narrow (Client.getEvents f) :=
  (Asks.call (Nat.le_trans h (by decide))).bind loadEvents

theorem getEventsLimit {f : Filter} (h : f.width ≤ 2) (limit : UInt64) :
    Narrow (Client.getEventsLimit f limit) :=
  (Asks.findLimit (Nat.le_trans (Nat.add_le_add_right h 1) (by decide))).bind loadEvents

/-- One event is looked up like many. -/
theorem eventById (text : String) : Narrow (Client.eventById text) := by
  refine (Asks.ofExcept _).bind fun id => (Asks.findOne two_le).bind fun d => ?_
  refine (loadEvents [d]).bind fun events => ?_
  cases events with
  | nil => exact .throw _
  | cons e events => exact .pure _

/-- An event is stored by one or two batches of documents. -/
theorem storeEvent (e : Event) : Narrow (Client.storeEvent e) := by
  have record : Narrow (Action.insertOne .events e.toRecord.toDocument >>= fun _ => Pure.pure e.id) :=
    (Asks.call (Nat.le_refl _)).bind fun _ => .pure _
  unfold Client.storeEvent
  split
  · exact (Asks.call (Nat.le_refl _)).bind fun _ => record
  · exact record

/-- Stamping asks nothing of the store, so adding an event is as narrow as storing it. -/
theorem addEvent (e : Event) : Narrow (Operation.addEvent e).action := by
  refine Program.Asks.bind ((stamp_asks e).bind fun e => ?_) fun _ => trivial
  exact Program.Asks.bind (storeEvent e) fun _ => trivial

/-- An update of an event sets no more fields than the record of an event has. -/
theorem size_updatedFields (e : Event) : (updatedFields e).size ≤ 7 :=
  calc (updatedFields e).size
    _ ≤ (e.toRecord.toDocument.erase "readings").size := OrderedMap.size_erase_le ..
    _ ≤ e.toRecord.toDocument.size := OrderedMap.size_erase_le ..
    _ ≤ e.toRecord.fields.length := OrderedMap.size_ofList_le _
    _ = 7 := rfl

/-- An update of an event is narrow, for an event has few fields. -/
theorem updateEvent (e : Event) : Narrow (Client.updateEvent e) := by
  refine Asks.clock.bind fun now => .call ?_
  exact Nat.le_trans (Nat.add_le_add_right (size_updatedFields _) 1) (by decide)

theorem getReadingsLimit {f : Filter} (h : f.width ≤ 2) (limit : UInt64) :
    Narrow (Client.getReadingsLimit f limit) :=
  (Asks.findLimit (Nat.le_trans (Nat.add_le_add_right h 1) (by decide))).bind fun _ => .ofExcept _

theorem getValueDescriptors {f : Filter} (h : f.width ≤ 1) : Narrow (Client.getValueDescriptors f) :=
  (Asks.call (Nat.le_trans h (by decide))).bind fun _ => .ofExcept _

theorem getValueDescriptor {f : Filter} (h : f.width ≤ 1) : Narrow (Client.getValueDescriptor f) :=
  (Asks.findOne (Nat.le_trans (Nat.add_le_add_right h 1) (by decide))).bind fun _ => .ofExcept _

theorem ifFound {a : Action α} (ha : Narrow a) : Narrow (Client.ifFound a) := by
  rw [ifFound_eq]
  exact Asks.report ha orNone

/-- A change of a descriptor is a look-up by one name and an update of one row. -/
theorem updateValueDescriptor (d : ValueDescriptor) : Narrow (Client.updateValueDescriptor d) := by
  have changed : Narrow (Action.lift Program.clock >>= fun now =>
      ExceptT.adapt (nameTaken d.name) (Action.call
        (.update .valueDescriptors d.id (.replace { d with modified := now }.toDocument)))) :=
    Asks.clock.bind fun now =>
      Asks.report (.call two_le) fun r => r.mapError (nameTaken d.name)
  refine (ifFound (getValueDescriptor (Nat.le_refl _))).bind fun existing => ?_
  cases existing with
  | none => exact changed
  | some existing =>
    dsimp only
    split
    · exact (Asks.throw _).bind fun _ => changed
    · exact changed

/-- A deletion is a look-up, a count and a deletion by one value each. -/
theorem deleteValueDescriptorById (text : String) :
    Narrow (Client.deleteValueDescriptorById text) := by
  refine (Asks.ofExcept _).bind fun id => (getValueDescriptor (Nat.le_refl _)).bind fun d => ?_
  refine (Asks.call one_le).bind fun inUse => ?_
  have deleted : Narrow (Action.deleteById .valueDescriptors text) := .deleteById _ fun _ => one_le
  split
  · exact (Asks.throw _).bind fun _ => deleted
  · exact deleted

/-- The names are looked up one by one. -/
theorem valueDescriptorsByName (names : List String) :
    Narrow (Client.valueDescriptorsByName names) := by
  induction names with
  | nil => exact .pure _
  | cons name names ih =>
    exact (ifFound (getValueDescriptor (Nat.le_refl _))).bind fun _ => ih.bind fun _ => .pure _

/-- The calls of every operation are narrow, but for the query by the names of descriptors. Its
filter is as wide as the list of names is long. -/
theorem operation {op : Operation}
    (h : ∀ names limit, op ≠ .readingsByValueDescriptorNames names limit) : Narrow op.action := by
  cases op with
  | ping | close => exact .call (by decide)
  | events => exact getEvents (by decide)
  | eventById text => exact eventById text
  | eventsForDevice => exact getEvents (Nat.le_succ _)
  | eventsForDeviceLimit => exact getEventsLimit (Nat.le_succ _) _
  | eventsByCreationTime => exact getEventsLimit (Nat.le_refl _) _
  | eventsOlderThanAge => exact Asks.clock.bind fun _ => getEvents (Nat.le_succ _)
  | eventsPushed => exact getEvents (Nat.le_succ _)
  | eventCount => exact .call (by decide)
  | eventCountByDevice => exact .call one_le
  | addEvent e => exact addEvent e
  | updateEvent e => exact updateEvent e
  | deleteEventById text => exact .deleteById _ fun _ => one_le
  | scrubAllEvents =>
    exact (Asks.call (by decide)).bind fun _ => (Asks.call (by decide)).bind fun _ => .pure _
  | readings => exact (Asks.call (by decide)).bind fun _ => .ofExcept _
  | readingById text =>
    exact (Asks.ofExcept _).bind fun _ => (Asks.findOne two_le).bind fun _ => .ofExcept _
  | readingsByDevice | readingsByValueDescriptor => exact getReadingsLimit (Nat.le_succ _) _
  -- the one filter that is as wide as an argument is long
  | readingsByValueDescriptorNames names limit => exact absurd rfl (h names limit)
  | readingsByCreationTime | readingsByDeviceAndValueDescriptor =>
    exact getReadingsLimit (Nat.le_refl _) _
  | readingCount => exact .call (by decide)
  | addReading r =>
    exact Asks.takeId.bind fun _ => Asks.clock.bind fun _ =>
      (Asks.call (Nat.le_refl _)).bind fun _ => .pure _
  | updateReading r => exact Asks.clock.bind fun _ => .call two_le
  | deleteReadingById text => exact .deleteById _ fun _ => one_le
  | valueDescriptors => exact getValueDescriptors (by decide)
  | valueDescriptorById text =>
    exact (Asks.ofExcept _).bind fun _ => getValueDescriptor (Nat.le_refl _)
  | valueDescriptorByName name => exact getValueDescriptor (Nat.le_refl _)
  | valueDescriptorsByName names => exact valueDescriptorsByName names
  | valueDescriptorsByUomLabel | valueDescriptorsByLabel | valueDescriptorsByType =>
    exact getValueDescriptors (Nat.le_refl _)
  | valueDescriptorCount => exact .call (by decide)
  | addValueDescriptor d =>
    exact Asks.clock.bind fun _ => Asks.takeId.bind fun _ =>
      (Asks.report (.call (Nat.le_refl _)) fun r => r.mapError (nameTaken d.name)).bind fun _ =>
        .pure _
  | updateValueDescriptor d => exact updateValueDescriptor d
  | deleteValueDescriptorById text => exact deleteValueDescriptorById text
  | scrubAllValueDescriptors => exact .call (by decide)

end Narrow

/-! ## The limit of the server -/

/-- The largest number of values that a server takes in one statement. It comes from a field of 16
bits in the protocol. -/
def placeholderLimit : Nat := 65535

theorem select_names (names : List String) (limit : UInt64) :
    ∃ s, select .readings (.among "name" (names.map .string)) (some limit) = .ok s := by
  cases names <;> exact ⟨_, rfl⟩

section

variable (server : Server) (around : Surroundings)

/-- The query by the names of descriptors is sent, and then binds each of them and the limit, or
nothing is sent. -/
theorem log_names_cases (names : List String) (limit : UInt64) (w : World Session) :
    (∃ y, log server around (Operation.readingsByValueDescriptorNames names limit).action w = [y] ∧
      y.statement.params.length = names.length + 1 ∧ limit ≠ 0 ∧ w.store.link = .ready) ∨
    log server around (Operation.readingsByValueDescriptorNames names limit).action w = [] ∧
      (limit = 0 ∨ w.store.link ≠ .ready) := by
  by_cases hlimit : limit = 0
  · subst hlimit
    exact .inr ⟨rfl, .inl rfl⟩
  by_cases hready : w.store.link = .ready
  · obtain ⟨s, hs⟩ := select_names names limit
    have width : s.params.length = names.length + 1 := by
      rw [length_params_select hs, Filter.width, List.length_map]
      rfl
    let call : Call := .find .readings (.among "name" (names.map .string)) (some limit)
    let y : Exchange := ⟨call, s, (server w.store).replies.head?⟩
    have query : log server around
        (Action.findLimit .readings (.among "name" (names.map .string)) limit) w = [y] := by
      rw [Action.findLimit, if_neg hlimit, log_call]
      exact exchangesFor_written hready (congrArg some hs)
    refine .inl ⟨y, ?_, width, hlimit, hready⟩
    -- what follows the query only reads the documents
    change log server around (Action.findLimit _ _ _ >>= _) w = _
    rw [log_bind, query]
    rcases Program.exec (serving server) around (Action.findLimit _ _ _) w with ⟨e | docs, w'⟩ <;>
      rfl
  · exact .inr ⟨log_unready server around _ hready, .inr hready⟩

/-- **The limit of placeholders**: every statement of an operation keeps to the limit, whatever the
arguments are and whatever the server answers, unless readings are asked for by too many names at
once. These are bound in one statement, together with the limit of the list, and are not cut into
batches as ids are. -/
theorem within_placeholder_limit_iff (op : Operation) (w : World Session) :
    ∃ sent, (Program.exec (serving server) around op.action w).2.store.sent = w.store.sent ++ sent ∧
      ((∀ s ∈ sent, s.params.length ≤ placeholderLimit) ↔
        ∀ names limit, op = .readingsByValueDescriptorNames names limit →
          limit = 0 ∨ w.store.link ≠ .ready ∨ names.length < placeholderLimit) := by
  refine ⟨_, sent_log server around w op.action, ?_⟩
  rw [List.forall_mem_map]
  -- only the query by names can exceed the limit, and it does so by its own statement alone
  by_cases hop : ∃ names limit, op = .readingsByValueDescriptorNames names limit
  · obtain ⟨names, limit, rfl⟩ := hop
    have same : (∀ names' limit', Operation.readingsByValueDescriptorNames names limit
        = .readingsByValueDescriptorNames names' limit' →
          limit' = 0 ∨ w.store.link ≠ .ready ∨ names'.length < placeholderLimit) ↔
        limit = 0 ∨ w.store.link ≠ .ready ∨ names.length < placeholderLimit :=
      ⟨fun h => h names limit rfl, fun h _ _ he => by cases he; exact h⟩
    rw [same]
    rcases log_names_cases server around names limit w with
      ⟨y, hlog, hy, hlimit, hready⟩ | ⟨hlog, hunsent⟩
    · rw [hlog, List.forall_mem_singleton, hy]
      simp only [hlimit, hready, ne_eq, not_true_eq_false, false_or]
      exact Iff.rfl
    · rw [hlog]
      exact ⟨fun _ => hunsent.imp_right .inl, fun _ => List.forall_mem_nil _⟩
  -- no other operation comes near the limit, so the right side holds for want of such a query
  · have narrowOp : Narrow op.action :=
      Narrow.operation fun names limit he => hop ⟨names, limit, he⟩
    refine ⟨fun _ names limit he => absurd ⟨names, limit, he⟩ hop, fun _ y hy => ?_⟩
    exact Nat.le_trans (length_params_of_mem_log narrowOp hy) (by decide)

end

/-- One name more than fits beside the limit. The statement is sent all the same, with all of the
names in it. -/
theorem beyond_placeholder_limit :
    let names := List.replicate 65535 "temperature"
    let op := Operation.readingsByValueDescriptorNames names 1
    ¬∀ y ∈ log Session.script ⟨0, fun _ => .nil⟩ op.action ⟨.start .ready, 0⟩,
      y.statement.params.length ≤ placeholderLimit := by
  intro names op within
  rcases log_names_cases Session.script ⟨0, fun _ => .nil⟩ names 1 ⟨.start .ready, 0⟩ with
    ⟨y, hlog, hy, -⟩ | ⟨-, hlimit | hready⟩
  · have fits := within y (hlog ▸ List.mem_singleton_self y)
    rw [hy, List.length_replicate] at fits
    exact absurd fits (by decide)
  · exact absurd hlimit (by decide)
  · exact hready rfl

end Sql

end Telemetry
