import Telemetry.Proofs.Client.Operations
import Telemetry.Proofs.Sql.Failure

/-!
# Operations stop at the first failure

`FailStop server around a` says that an action, run in front of a server, stops at the first bad
exchange. It is proved along the program: actions in a row, calls, and queries together with what is
done with the documents they bring. Two operations go on where nothing has been found, and no
failure of the server is taken for that.

* `FailStop.bind`, `FailStop.call`, `FailStop.report` — actions in a row, calls, and results that
  are reported in another way.
* `FailStop.find`, `FailStop.findOne`, `FailStop.findLimit` — queries, whose documents must fit.
* `FailStop.operation` — every operation of the client.
-/

namespace Telemetry.Sql

open Client Program

/-! ## Actions

The judgement follows the way in which an action is written. What sends nothing cannot stop at
anything, and a query is judged together with what decodes its documents. -/

section

variable {α : Type} {decoder : Json.Decoder α}

/-- A document that does not fit is not taken for one that is missing. This is what makes it safe to
go on where nothing has been found. -/
theorem decode_cases (decoder : Json.Decoder α) (d : Document) :
    (∃ a, d.decode decoder = .ok a) ∨ ∃ e, e ≠ .notFound ∧ d.decode decoder = .error e := by
  unfold Document.decode
  cases decoder.decode d.toValue with
  | error why => exact .inr ⟨.unexpected (.shape why), by simp, rfl⟩
  | ok a => exact .inl ⟨a, rfl⟩

/-- An action that decodes a document that does not fit stops there. -/
theorem decode_throws {d : Document} (h : (d.decode decoder).isOk = false) :
    ∃ e, e ≠ .notFound ∧ Action.ofExcept (d.decode decoder) = throw e := by
  rcases decode_cases decoder d with ⟨a, ha⟩ | ⟨e, lost, he⟩
  · rw [ha] at h
    cases h
  · exact ⟨e, lost, by rw [he]; rfl⟩

/-- Among several documents one that does not fit is enough. The error is that of the first such
document, and it is never that nothing has been found. -/
theorem decodeAll_error {docs : List Document} (h : ∃ d ∈ docs, (d.decode decoder).isOk = false) :
    ∃ e, e ≠ .notFound ∧ Document.decodeAll decoder docs = .error e := by
  induction docs with
  | nil =>
    obtain ⟨d, hd, -⟩ := h
    cases hd
  | cons d docs ih =>
    rw [Document.decodeAll]
    -- the first document may itself be the one, and then the rest is not looked at
    rcases decode_cases decoder d with ⟨a, ha⟩ | ⟨e, lost, he⟩
    · have rest : ∃ d ∈ docs, (d.decode decoder).isOk = false := by
        obtain ⟨d', hd', hno⟩ := h
        rcases List.mem_cons.1 hd' with rfl | hd'
        · rw [ha] at hno
          cases hno
        · exact ⟨d', hd', hno⟩
      obtain ⟨e, lost, he⟩ := ih rest
      rw [ha, he]
      exact ⟨e, lost, rfl⟩
    · rw [he]
      exact ⟨e, lost, rfl⟩

theorem decodeAll_throws {docs : List Document}
    (h : ∃ d ∈ docs, (d.decode decoder).isOk = false) :
    ∃ e, e ≠ .notFound ∧ Action.ofExcept (Document.decodeAll decoder docs) = throw e := by
  obtain ⟨e, lost, he⟩ := decodeAll_error h
  exact ⟨e, lost, by rw [he]; rfl⟩

end

/-- Events are not loaded if one of their documents does not fit. No reading has been looked up by
then. -/
theorem loadEvents_throws {docs : List Document} (h : ∃ d ∈ docs, fits .events d = false) :
    ∃ e, e ≠ .notFound ∧ Client.loadEvents docs = throw e := by
  obtain ⟨e, lost, he⟩ := decodeAll_error h
  exact ⟨e, lost, by rw [Client.loadEvents, he]; rfl⟩

/-- The readings of an event are stamped without the store, so the log of an addition begins with
the storing of the readings. -/
theorem calls_stampReadings {σ : Type} (b : Backend σ) (around : Surroundings)
    (created : Timestamp) (device : String) (rs : List Reading) (w : World σ) :
    (stampReadings created device rs).calls b around w = [] := by
  induction rs generalizing w with
  | nil => rfl
  | cons r rs ih =>
    change ((stampReadings created device rs).bind _).calls b around
      { w with taken := w.taken + 1 } = []
    rw [Program.calls_bind, ih]
    rfl

/-- What is asked of the store to add an event is what is asked to store it. -/
theorem calls_addEvent {σ : Type} (b : Backend σ) (around : Surroundings) (e : Event)
    (w : World σ) :
    (Operation.addEvent e).action.calls b around w
      = (storeEvent (stamped around w.taken e)).calls b around
          { w with taken := w.taken + 1 + e.readings.length } := by
  have stamping : (stamp e).calls b around w = [] := by
    change ((stampReadings around.now e.device e.readings).bind _).calls b around
      { w with taken := w.taken + 1 } = []
    rw [Program.calls_bind, calls_stampReadings]
    rfl
  change (((stamp e).bind fun stamped => (storeEvent stamped).run.bind _).bind _).calls b around w
    = _
  rw [Program.calls_bind, Program.calls_bind, Program.calls_bind, stamping, stamp_run]
  simp [Program.calls, Action.calls]

/-- What is sent to add an event is what is sent to store it, with its ids and times already given.
-/
theorem log_addEvent (server : Server) (around : Surroundings) (e : Event) (w : World Session) :
    log server around (Operation.addEvent e).action w
      = log server around (storeEvent (stamped around w.taken e))
          { w with taken := w.taken + 1 + e.readings.length } :=
  congrArg (List.flatMap _) (calls_addEvent ..)

/-- Looking up one document is a query of its own. The two differ only in what is done if nothing is
found. -/
theorem findOne_bind {α : Type} (c : Collection) (f : Filter) (g : Document → Action α) :
    Action.findOne c f >>= g = Action.call (.find c f (some 1)) >>= fun docs =>
      match docs with
      | d :: _ => g d
      | [] => throw .notFound := by
  refine congrArg (Program.call _) (funext fun r => ?_)
  rcases r with e | _ | ⟨d, docs⟩ <;> rfl

/-- The result of a look-up where nothing found is no error. All other errors are kept. -/
def orNone {α : Type} : Except StoreError α → Except StoreError (Option α)
  | .ok x => .ok (some x)
  | .error .notFound => .ok none
  | .error e => .error e

/-- A look-up where nothing found is no error only reports its result in another way, so it sends
what the look-up sends. -/
theorem ifFound_eq {α : Type} (a : Action α) :
    Client.ifFound a = ExceptT.mk (a.run.bind fun r => .done (orNone r)) := by
  refine congrArg ExceptT.mk (congrArg a.run.bind (funext fun r => ?_))
  cases r with
  | ok x => rfl
  | error e => cases e <;> rfl

/-- In front of the server an action stops at the first bad exchange, if the server keeps to limits.
It is stated for every state of the world, so that actions can be put in a row. -/
def FailStop {α : Type} (server : Server) (around : Surroundings) (a : Action α) : Prop :=
  ∀ w, (∀ y ∈ log server around a w, y.Fair) →
    Stops false (log server around a w) (failure? (exec (serving server) around a w).1)

namespace FailStop

variable {α β : Type} {server : Server} {around : Surroundings}

theorem silent {a : Action α} (h : ∀ w, log server around a w = []) :
    FailStop server around a := by
  intro w _
  rw [h]
  exact .done

/-- A result stops at nothing. This and the next four are the actions that send nothing. -/
theorem pure (x : α) : FailStop server around (Pure.pure x) := silent fun _ => rfl

theorem throw (e : StoreError) : FailStop server around (MonadExcept.throw e : Action α) :=
  silent fun _ => rfl

theorem ofExcept (r : Except StoreError α) : FailStop server around (Action.ofExcept r) :=
  silent fun _ => rfl

theorem clock : FailStop server around (Action.lift Program.clock) := silent fun _ => rfl

theorem takeId : FailStop server around (Action.lift Program.takeId) := silent fun _ => rfl

/-- Of two actions in a row the second one is only run if the first has met no failure, so the
second log begins without one. -/
theorem bind {a : Action α} {f : α → Action β} (ha : FailStop server around a)
    (hf : ∀ x, FailStop server around (f x)) : FailStop server around (a >>= f) := by
  intro w hfair
  rw [log_bind] at hfair ⊢
  rw [exec_bind]
  have first := ha w fun y hy => hfair y (List.mem_append_left _ hy)
  rcases hrun : exec (serving server) around a w with ⟨e | x, w'⟩ <;> rw [hrun] at first hfair
  · rw [List.append_nil]
    exact first
  · exact first.append (hf x w' fun y hy => hfair y (List.mem_append_right _ hy))

/-- Calls other than queries for documents. What a query brings is judged later, by the action that
decodes it, so queries are taken together with that. -/
theorem call {c : Call} (hc : ∀ coll f limit, c ≠ .find coll f limit) :
    FailStop server around (Action.call c) := by
  intro w hfair
  rw [log_call] at hfair ⊢
  rw [exec_call]
  generalize w.store.meet (server w.store) = x at hfair ⊢
  -- all calls but two take one statement, which is bad or not
  have single (hs : (statementOf c).isSome) :
      Stops false (exchangesFor c x) (failure? (answer c x).1) := by
    rcases exchangesFor_cases (x := x) hs with ⟨s, hwritten, hlog, he⟩ | ⟨e, -, hlog, -⟩
    · rw [hlog, he]
      rw [hlog, List.forall_mem_singleton] at hfair
      cases hbad : Exchange.bad ⟨c, s, x.replies.head?⟩ with
      | false =>
        refine .good hbad ?_
        rw [leaves_ordinary (ordinary_statementOf hwritten)]
        exact .done
      | true =>
        obtain ⟨e, lost, hread⟩ := read_bad hs hc hfair hbad
        dsimp only
        rw [hread]
        exact .failed (leaves_ordinary (ordinary_statementOf hwritten) false) lost
    · rw [hlog]
      exact .done
  cases c with
  | insert c docs =>
    rcases insert_cases c docs x with ⟨-, rows, r, x', trace, he, hsent, hends⟩ | ⟨r, he, -⟩
    · rw [exchangesFor_of_append ((congrArg (fun p => p.2.sent) he).trans hsent), he]
      refine Stops.transaction c docs ?_ hends
      intro s hs
      obtain ⟨batch, -, rfl⟩ := List.mem_map.1 hs
      exact ordinary_insertRows c batch
    · rw [exchangesFor_of_unsent (by rw [he])]
      exact .done
  | close =>
    rw [exchangesFor_of_unsent rfl]
    exact .done
  | _ => exact single rfl

/-- Going on with the result, if no failure of the server is taken for success. That nothing has
been found may be taken for one: it is no failure of the server. -/
theorem report {a : Action α} (ha : FailStop server around a)
    {g : Except StoreError α → Except StoreError β}
    (hg : ∀ e, e ≠ .notFound → ∃ e', e' ≠ .notFound ∧ g (.error e) = .error e') :
    FailStop server around (ExceptT.mk (a.run.bind fun r => .done (g r))) := by
  intro w hfair
  rw [log_report] at hfair ⊢
  rw [exec_report]
  refine (ha w hfair).report fun e lost he => ?_
  obtain ⟨e', lost', hr⟩ := hg e lost
  rw [failure?_eq_some.1 he, hr]
  exact ⟨e', lost', rfl⟩

/-- A name that is not unique is reported as the name at hand, and that is still a failure. -/
theorem nameTaken {a : Action α} (ha : FailStop server around a) (name : String) :
    FailStop server around (ExceptT.adapt (Client.nameTaken name) a) := by
  refine ha.report (g := fun r => r.mapError (Client.nameTaken name)) fun e lost => ?_
  refine ⟨Client.nameTaken name e, ?_, rfl⟩
  cases e with
  | notUnique => simp [Client.nameTaken]
  | _ => exact lost

/-- Going on where nothing has been found is safe: no failure of the server says that. -/
theorem ifFound {a : Action α} (ha : FailStop server around a) :
    FailStop server around (Client.ifFound a) := by
  rw [ifFound_eq]
  refine ha.report fun e lost => ⟨e, lost, ?_⟩
  cases e with
  | notFound => exact absurd rfl lost
  | _ => rfl

/-- A query for documents and what is done with them, if documents that do not fit are refused
there. -/
theorem find {c : Collection} {f : Filter} {limit : Option UInt64} {g : List Document → Action α}
    (hbad : ∀ docs, (∀ n, limit = some n → docs.length ≤ n.toNat) →
      (∃ d ∈ docs, fits c d = false) → ∃ e, e ≠ .notFound ∧ g docs = MonadExcept.throw e)
    (hgood : ∀ docs, FailStop server around (g docs)) :
    FailStop server around (Action.call (.find c f limit) >>= g) := by
  intro w hfair
  rw [log_bind, log_call] at hfair ⊢
  rw [exec_call] at hfair
  rw [exec_bind, exec_call]
  generalize w.store.meet (server w.store) = x at hfair ⊢
  rcases exchangesFor_cases (c := .find c f limit) (x := x) rfl with
    ⟨s, hwritten, hlog, he⟩ | ⟨e, -, hlog, he⟩
  · have closed : Exchange.leaves false ⟨.find c f limit, s, x.replies.head?⟩ = false :=
      leaves_ordinary (ordinary_statementOf hwritten) false
    have he : answer (.find c f limit) x = (foundIn x.replies.head?, x.after [s]) := he
    rw [hlog, he] at hfair ⊢
    have fair : Exchange.Fair ⟨.find c f limit, s, x.replies.head?⟩ :=
      hfair _ (List.mem_append_left _ (List.mem_singleton_self _))
    rcases foundIn_cases fair with ⟨docs, hfound, hlimit, fine⟩ | ⟨e, lost, hfound⟩ <;>
      rw [hfound] at hfair ⊢
    · by_cases hfits : ∀ d ∈ docs, fits c d = true
      · refine .good (fine hfits) ?_
        rw [closed]
        exact hgood docs _ fun y hy => hfair y (List.mem_append_right _ hy)
      · -- nothing more is sent for documents that do not fit
        obtain ⟨e, lost, hthrow⟩ := hbad docs hlimit (by simpa using hfits)
        dsimp only
        rw [hthrow]
        exact .failed closed lost
    · exact .failed closed lost
  · rw [hlog, he]
    exact .done

/-- A look-up of one document and what is done with it. It is a query with a limit of one, and a
server that keeps to the limit sends no second document to be judged. -/
theorem findOne {c : Collection} {f : Filter} {g : Document → Action α}
    (hbad : ∀ d, fits c d = false → ∃ e, e ≠ .notFound ∧ g d = MonadExcept.throw e)
    (hgood : ∀ d, FailStop server around (g d)) :
    FailStop server around (Action.findOne c f >>= g) := by
  rw [findOne_bind]
  refine find (fun docs hlimit hunfit => ?_) fun docs => ?_
  · obtain ⟨d, hd, hno⟩ := hunfit
    rcases docs with _ | ⟨d', docs⟩
    · cases hd
    · have one : (d' :: docs).length ≤ 1 := hlimit 1 rfl
      obtain rfl : docs = [] := by simpa using one
      obtain rfl := List.mem_singleton.1 hd
      exact hbad d hno
  · cases docs with
    | nil => exact .throw _
    | cons d docs => exact hgood d

/-- A query with a limit, which sends nothing if the limit is zero. In that case there are no
documents to be judged either. -/
theorem findLimit {c : Collection} {f : Filter} {limit : UInt64} {g : List Document → Action α}
    (hbad : ∀ docs, (∃ d ∈ docs, fits c d = false) →
      ∃ e, e ≠ .notFound ∧ g docs = MonadExcept.throw e)
    (hgood : ∀ docs, FailStop server around (g docs)) :
    FailStop server around (Action.findLimit c f limit >>= g) := by
  unfold Action.findLimit
  split
  · exact hgood []
  · exact find (fun docs _ => hbad docs) hgood

theorem deleteById (c : Collection) (text : String) :
    FailStop server around (Action.deleteById c text) :=
  (ofExcept _).bind fun _ => call (by simp)

/-! ### Events -/

theorem lookUp (ids : List ObjectId) : FailStop server around (Client.lookUp ids) :=
  find (fun _ _ => decodeAll_throws) fun _ => .ofExcept _

theorem lookUpAll (found : OrderedMap ObjectId Reading) (batches : List (List ObjectId)) :
    FailStop server around (Client.lookUpAll found batches) := by
  induction batches generalizing found with
  | nil => exact .pure _
  | cons batch batches ih => exact (lookUp batch).bind fun _ => ih _

/-- Events are decoded first and then their readings are looked up. -/
theorem loadEvents (docs : List Document) : FailStop server around (Client.loadEvents docs) :=
  (ofExcept _).bind fun _ => (lookUpAll _ _).bind fun _ => .pure _

theorem getEvents (f : Filter) : FailStop server around (Client.getEvents f) :=
  find (fun _ _ => loadEvents_throws) loadEvents

theorem getEventsLimit (f : Filter) (limit : UInt64) :
    FailStop server around (Client.getEventsLimit f limit) :=
  findLimit (fun _ => loadEvents_throws) loadEvents

/-- The one event found is decoded with the same care as many. -/
theorem eventById (text : String) : FailStop server around (Client.eventById text) := by
  refine (ofExcept _).bind fun id => findOne (fun d hno => ?_) fun d => ?_
  · obtain ⟨e, lost, he⟩ := loadEvents_throws ⟨d, List.mem_singleton_self d, hno⟩
    exact ⟨e, lost, by rw [he]; rfl⟩
  · refine (loadEvents [d]).bind fun events => ?_
    cases events with
    | nil => exact .throw _
    | cons e events => exact .pure _

/-- The readings are stored before the record, and the record only if they have been. -/
theorem storeEvent (e : Event) : FailStop server around (Client.storeEvent e) := by
  have record : FailStop server around
      (Action.insertOne .events e.toRecord.toDocument >>= fun _ => Pure.pure e.id) :=
    (call (by simp)).bind fun _ => .pure _
  unfold Client.storeEvent
  rcases e.readings with _ | ⟨r, rs⟩
  · exact record
  · exact (call (by simp)).bind fun _ => record

theorem addEvent (e : Event) : FailStop server around (Operation.addEvent e).action := by
  intro w hfair
  rw [log_addEvent] at hfair ⊢
  rw [Operation.exec_addEvent, addEvent_run]
  exact storeEvent _ _ hfair

theorem updateEvent (e : Event) : FailStop server around (Client.updateEvent e) :=
  clock.bind fun _ => call (by simp)

theorem scrubAllEvents : FailStop server around Client.scrubAllEvents :=
  (call (by simp)).bind fun _ => (call (by simp)).bind fun _ => .pure _

/-! ### Readings -/

theorem readings : FailStop server around Client.readings :=
  find (fun _ _ => decodeAll_throws) fun _ => .ofExcept _

theorem readingById (text : String) : FailStop server around (Client.readingById text) :=
  (ofExcept _).bind fun _ => findOne (fun _ => decode_throws) fun _ => .ofExcept _

theorem getReadingsLimit (f : Filter) (limit : UInt64) :
    FailStop server around (Client.getReadingsLimit f limit) :=
  findLimit (fun _ => decodeAll_throws) fun _ => .ofExcept _

theorem addReading (r : Reading) : FailStop server around (Client.addReading r) :=
  takeId.bind fun _ => clock.bind fun _ => (call (by simp)).bind fun _ => .pure _

theorem updateReading (r : Reading) : FailStop server around (Client.updateReading r) :=
  clock.bind fun _ => call (by simp)

/-! ### Value descriptors -/

theorem getValueDescriptors (f : Filter) : FailStop server around (Client.getValueDescriptors f) :=
  find (fun _ _ => decodeAll_throws) fun _ => .ofExcept _

theorem getValueDescriptor (f : Filter) : FailStop server around (Client.getValueDescriptor f) :=
  findOne (fun _ => decode_throws) fun _ => .ofExcept _

theorem addValueDescriptor (d : ValueDescriptor) :
    FailStop server around (Client.addValueDescriptor d) :=
  clock.bind fun _ => takeId.bind fun _ =>
    (nameTaken (call (by simp)) d.name).bind fun _ => .pure _

/-- The look-up of the name may find nothing and the change goes on; whatever else it answers stops
it. -/
theorem updateValueDescriptor (d : ValueDescriptor) :
    FailStop server around (Client.updateValueDescriptor d) := by
  have changed : FailStop server around
      (Action.lift Program.clock >>= fun now => ExceptT.adapt (Client.nameTaken d.name)
        (Action.call
          (.update .valueDescriptors d.id (.replace { d with modified := now }.toDocument)))) :=
    clock.bind fun _ => nameTaken (call (by simp)) d.name
  refine (ifFound (getValueDescriptor _)).bind fun existing => ?_
  cases existing with
  | none => exact changed
  | some existing =>
    dsimp only
    split
    · exact (throw _).bind fun _ => changed
    · exact changed

/-- A look-up, a count and a deletion, each only after the one before it has succeeded. -/
theorem deleteValueDescriptorById (text : String) :
    FailStop server around (Client.deleteValueDescriptorById text) := by
  refine (ofExcept _).bind fun id => (getValueDescriptor _).bind fun d => ?_
  refine (call (by simp)).bind fun inUse => ?_
  split
  · exact (throw _).bind fun _ => deleteById _ _
  · exact deleteById _ _

/-- The names are looked up in turn, and only a name that nobody has is passed over. -/
theorem valueDescriptorsByName (names : List String) :
    FailStop server around (Client.valueDescriptorsByName names) := by
  induction names with
  | nil => exact .pure _
  | cons name names ih =>
    exact (ifFound (getValueDescriptor _)).bind fun _ => ih.bind fun _ => .pure _

/-! ### Operations -/

/-- Every operation stops at the first bad exchange. There is one case for each operation, and each
follows the program of the operation line by line. -/
theorem operation (op : Operation) : FailStop server around op.action := by
  cases op with
  | ping | close => exact call (by simp)
  | events => exact getEvents _
  | eventById text => exact eventById text
  | eventsForDevice => exact getEvents _
  | eventsForDeviceLimit => exact getEventsLimit _ _
  | eventsByCreationTime => exact getEventsLimit _ _
  | eventsOlderThanAge => exact clock.bind fun _ => getEvents _
  | eventsPushed => exact getEvents _
  | eventCount | eventCountByDevice => exact call (by simp)
  | addEvent e => exact addEvent e
  | updateEvent e => exact updateEvent e
  | deleteEventById text => exact deleteById _ text
  | scrubAllEvents => exact scrubAllEvents
  | readings => exact readings
  | readingById text => exact readingById text
  | readingsByDevice | readingsByValueDescriptor | readingsByValueDescriptorNames
  | readingsByCreationTime | readingsByDeviceAndValueDescriptor => exact getReadingsLimit _ _
  | readingCount => exact call (by simp)
  | addReading r => exact addReading r
  | updateReading r => exact updateReading r
  | deleteReadingById text => exact deleteById _ text
  | valueDescriptors => exact getValueDescriptors _
  | valueDescriptorById text => exact (ofExcept _).bind fun _ => getValueDescriptor _
  | valueDescriptorByName name => exact getValueDescriptor _
  | valueDescriptorsByName names => exact valueDescriptorsByName names
  | valueDescriptorsByUomLabel | valueDescriptorsByLabel | valueDescriptorsByType =>
    exact getValueDescriptors _
  | valueDescriptorCount => exact call (by simp)
  | addValueDescriptor d => exact addValueDescriptor d
  | updateValueDescriptor d => exact updateValueDescriptor d
  | deleteValueDescriptorById text => exact deleteValueDescriptorById text
  | scrubAllValueDescriptors => exact call (by simp)

end FailStop

end Telemetry.Sql
