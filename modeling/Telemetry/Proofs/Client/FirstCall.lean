import Telemetry.Proofs.Calls
import Telemetry.Proofs.Client.Foreseen
import Telemetry.Proofs.Client.Operations
import Telemetry.Proofs.ObjectId.Text

/-!
# Which operations need a store

Before its first call an operation looks at its arguments alone, so it is decided then whether it
ends without a store. What comes after the first call does not matter to a store that is closed: the
call is refused, and every operation passes the refusal on.

* `Program.NeedsStore` — a program that makes a call, and ends if the call is refused.
* `NeedsStore.handle`, `NeedsStore.after` — what comes after such a program, and before it.
* `Operation.settles` — every operation but closing needs a store, or has a known result.
* `Operation.calm` — on a closed store every operation has a foreseen result.
-/

namespace Telemetry

open Client Program

/-! ## Programs that need a store -/

section

variable {σ α β : Type}

/-- A program makes a call, and ends with the refusal if the store is closed. What it does before
the call must not depend on a store, and what it does after it must not hide the refusal. -/
def Program.NeedsStore : Program (Except StoreError α) → Prop
  | done _ => False
  | call c next => c ≠ .close ∧ next (.error .noActiveClient) = done (.error .noActiveClient)
  | now next => ∀ t, (next t).NeedsStore
  | freshId next => ∀ id, (next id).NeedsStore

namespace Program.NeedsStore

/-- Whatever is done with the result, the first call is made before. -/
theorem handle {p : Program (Except StoreError α)}
    {f : Except StoreError α → Program (Except StoreError β)} (hp : p.NeedsStore)
    (hf : f (.error .noActiveClient) = done (.error .noActiveClient)) : (p.bind f).NeedsStore := by
  induction p with
  | done r => exact hp.elim
  | call c next _ =>
    -- this is the first call, so the induction ends here: its refusal is the result
    obtain ⟨hc, hnext⟩ := hp
    refine ⟨hc, ?_⟩
    change (next _).bind f = _
    rw [hnext]
    exact hf
  | now next ih => exact fun t => ih t (hp t)
  | freshId next ih => exact fun id => ih id (hp id)

/-- What is asked of the clock and of the source of ids before the first call does not matter: both
answer without a store. -/
theorem after {p : Program α} {f : α → Program (Except StoreError β)} (hp : p.Asks fun _ => False)
    (hf : ∀ a, (f a).NeedsStore) : (p.bind f).NeedsStore := by
  induction p with
  | done a => exact hf a
  | call c next _ => exact hp.1.elim
  | now next ih => exact fun t => ih t (hp t)
  | freshId next ih => exact fun id => ih id (hp id)

/-- A closed store refuses the first call, and an action that needs a store does nothing before it
that could be seen. -/
theorem run_closed {p : Program (Except StoreError α)} (hp : p.NeedsStore) (around : Surroundings)
    {w : World Memory} (h : w.store.closed = true) :
    (p.run Memory.backend around w).1 = .error .noActiveClient := by
  induction p generalizing w with
  | done r => exact hp.elim
  | call c next _ =>
    obtain ⟨hc, hnext⟩ := hp
    rw [Program.run]
    dsimp only [Memory.backend]
    rw [Memory.answer_of_closed h hc, hnext]
    rfl
  | now next ih => exact ih _ (hp _) h
  | freshId next ih => exact ih _ (hp _) (w := { w with taken := w.taken + 1 }) h

/-- Every store is asked. -/
theorem calls_ne_nil {p : Program (Except StoreError α)} (hp : p.NeedsStore) (b : Backend σ)
    (around : Surroundings) (w : World σ) : p.calls b around w ≠ [] := by
  induction p generalizing w with
  | done r => exact hp.elim
  | call c next _ => exact List.cons_ne_nil _ _
  | now next ih => exact ih _ (hp _) w
  | freshId next ih => exact ih _ (hp _) _

end Program.NeedsStore

/-! ## Actions

What needs a store goes on needing one, whatever follows and whatever is done with its result. So an
operation is judged by its first call, and the lemmas say of each way to begin which one that is. -/

namespace Action

/-- An action that makes a call, and ends with the refusal if the store is closed. -/
def NeedsStore (a : Action α) : Prop := a.run.NeedsStore

namespace NeedsStore

variable {c : Collection} {f : Filter}

/-- A call other than closing needs a store. The calls that operations begin with are listed after
this one. -/
theorem call {c : Call} (hc : c ≠ .close) : NeedsStore (Action.call c) := ⟨hc, rfl⟩

theorem ping : NeedsStore (Action.call .ping) := call nofun

theorem find {limit : Option UInt64} : NeedsStore (Action.call (.find c f limit)) := call nofun

theorem count : NeedsStore (Action.call (.count c f)) := call nofun

theorem insert {docs : List Document} : NeedsStore (Action.call (.insert c docs)) := call nofun

theorem update {id : ObjectId} {u : Update} : NeedsStore (Action.call (.update c id u)) :=
  call nofun

theorem delete {id : ObjectId} : NeedsStore (Action.call (.delete c id)) := call nofun

theorem deleteAll : NeedsStore (Action.call (.deleteAll c f)) := call nofun

theorem bind {a : Action α} (ha : a.NeedsStore) (f : α → Action β) : NeedsStore (a >>= f) :=
  Program.NeedsStore.handle ha rfl

theorem ifFound {a : Action α} (ha : a.NeedsStore) : NeedsStore (Client.ifFound a) :=
  Program.NeedsStore.handle ha rfl

theorem adapt {a : Action α} (ha : a.NeedsStore) (name : String) :
    NeedsStore (ExceptT.adapt (Client.nameTaken name) a) :=
  Program.NeedsStore.handle (f := fun r => done (r.mapError (Client.nameTaken name))) ha rfl

theorem clock {f : Timestamp → Action α} (hf : ∀ t, (f t).NeedsStore) :
    NeedsStore (Action.lift Program.clock >>= f) := hf

/-- Taking an id comes before the first call. -/
theorem takeId {f : ObjectId → Action α} (hf : ∀ id, (f id).NeedsStore) :
    NeedsStore (Action.lift Program.takeId >>= f) := hf

end NeedsStore

/-- What an action does first: it ends with a result that is known, or it needs a store. Every
operation is of one of the two kinds for given arguments. -/
def Settles (a : Action α) : Option (Except StoreError α) → Prop
  | some r => a.run = done r
  | none => a.NeedsStore

namespace Settles

/-- A text that is no id is refused, and an id is looked for in the store. So a malformed id has the
same error on a closed store as on an open one. -/
theorem afterId {text : String} {f : ObjectId → Action β} (hf : ∀ k, (f k).NeedsStore) :
    Settles (ofExcept (parseId text) >>= f)
      (if ObjectId.isHex text then none else some (.error (.invalidIdentifier text))) := by
  cases hp : ObjectId.parse? text with
  | none =>
    have malformed : parseId text = .error (.invalidIdentifier text) := by rw [parseId, hp]
    rw [ObjectId.parse?_eq_none_iff.1 hp, malformed]
    rfl
  | some k =>
    have parsed : parseId text = .ok k := by rw [parseId, hp]
    rw [if_pos (ObjectId.isHex_of_parse? hp), parsed]
    exact hf k

/-- Nothing is looked for where nothing is wanted. -/
theorem limited {f : List Document → Action β} {r : Except StoreError β} {c : Collection}
    {filter : Filter} {limit : UInt64} (hf : (f []).run = done r) :
    Settles (findLimit c filter limit >>= f) (if limit = 0 then some r else none) := by
  unfold findLimit
  split
  · exact hf
  · exact NeedsStore.bind .find f

/-- On a closed store an action ends with the result that is known without it, or with the error
that there is no client. -/
theorem exec_closed {a : Action α} {known : Option (Except StoreError α)} (ha : a.Settles known)
    (around : Surroundings) {w : World Memory} (h : w.store.closed = true) :
    (exec Memory.backend around a w).1 = known.getD (.error .noActiveClient) := by
  cases known with
  | none => exact Program.NeedsStore.run_closed ha around h
  | some r =>
    have ends : a.run = done r := ha
    rw [exec, ends]
    rfl

end Settles

end Action

end

/-! ## Operations -/

/-- The result of an operation that needs no store: the text of an id is malformed, a list is to
have no items, or there are no names to look up. -/
def Operation.withoutStore? : (op : Operation) → Option (Except StoreError op.Answer)
  | eventById text | deleteEventById text | readingById text | deleteReadingById text
  | valueDescriptorById text | deleteValueDescriptorById text =>
    if ObjectId.isHex text then none else some (.error (.invalidIdentifier text))
  | eventsForDeviceLimit _ limit | eventsByCreationTime _ _ limit | readingsByDevice _ limit
  | readingsByValueDescriptor _ limit | readingsByValueDescriptorNames _ limit
  | readingsByCreationTime _ _ limit | readingsByDeviceAndValueDescriptor _ _ limit =>
    if limit = 0 then some (.ok []) else none
  | valueDescriptorsByName [] => some (.ok [])
  | _ => none

/-- What is known without a store is no unexpected error. -/
theorem Operation.withoutStore?_foreseen {op : Operation} {r : Except StoreError op.Answer}
    (h : op.withoutStore? = some r) : Foreseen r := by
  cases op with
  | eventById text | deleteEventById text | readingById text | deleteReadingById text
  | valueDescriptorById text | deleteValueDescriptorById text =>
    rw [withoutStore?] at h
    split at h
    · cases h
    · obtain rfl := Option.some.inj h
      exact .error rfl
  | eventsForDeviceLimit _ limit | eventsByCreationTime _ _ limit | readingsByDevice _ limit
  | readingsByValueDescriptor _ limit | readingsByValueDescriptorNames _ limit
  | readingsByCreationTime _ _ limit | readingsByDeviceAndValueDescriptor _ _ limit =>
    rw [withoutStore?] at h
    split at h
    · obtain rfl := Option.some.inj h
      exact .ok []
    · cases h
  | valueDescriptorsByName names =>
    cases names with
    | nil =>
      obtain rfl := Option.some.inj h
      exact .ok []
    | cons _ _ => cases h
  | _ => cases h

theorem loadEvents_nil : (loadEvents []).run = done (.ok []) := by
  change (lookUpAll ∅ (chunks lookupBatch []) >>= _ : Action _).run = _
  rw [chunks_nil]
  rfl

theorem stampReadings_asks {P : Call → Prop} (created : Timestamp) (device : String)
    (rs : List Reading) : (stampReadings created device rs).Asks P := by
  induction rs with
  | nil => exact trivial
  | cons r rs ih => exact fun id => ih.bind fun _ => trivial

theorem stamp_asks {P : Call → Prop} (e : Event) : (stamp e).Asks P := fun created _ =>
  (stampReadings_asks created e.device e.readings).bind fun _ => trivial

/-- An event is stored by a call, whether it has readings or not. -/
theorem storeEvent_needsStore (e : Event) : (storeEvent e).NeedsStore := by
  unfold storeEvent
  cases e.readings with
  | nil => exact .bind .insert _
  | cons r rs => exact .bind .insert _

theorem valueDescriptorByName_needsStore (name : String) :
    (valueDescriptorByName name).NeedsStore :=
  .bind (.bind .find _) _

/-- Adding an event needs a store, but only after it has been stamped. -/
theorem addEvent_needsStore (e : Event) : (Operation.addEvent e).action.NeedsStore := by
  -- the first call is the insertion of the readings, or of the event if it has none
  change ((stamp e).bind _ |>.bind _).NeedsStore
  rw [bind_assoc]
  refine .after (stamp_asks e) fun stamped => ?_
  change ((storeEvent stamped).run.bind _ |>.bind _).NeedsStore
  rw [bind_assoc]
  exact .handle (storeEvent_needsStore stamped) rfl

/-- Every operation but closing settles in one of the two ways. There is one case for each
operation, and it depends only on how its program begins. -/
theorem Operation.settles (op : Operation) (hop : op ≠ .close) :
    op.action.Settles op.withoutStore? := by
  cases op with
  | close => exact absurd rfl hop
  | ping => exact Action.NeedsStore.ping
  | eventCount | eventCountByDevice _ | readingCount | valueDescriptorCount =>
    exact Action.NeedsStore.count
  | scrubAllEvents => exact Action.NeedsStore.bind .deleteAll _
  | scrubAllValueDescriptors => exact Action.NeedsStore.deleteAll
  | events | eventsForDevice _ | eventsPushed | readings | valueDescriptors
  | valueDescriptorsByUomLabel _ | valueDescriptorsByLabel _ | valueDescriptorsByType _ =>
    exact Action.NeedsStore.bind .find _
  | eventById text => exact .afterId fun _ => .bind (.bind .find _) _
  | readingById text => exact .afterId fun _ => .bind (.bind .find _) _
  | valueDescriptorById text => exact .afterId fun _ => .bind (.bind .find _) _
  | deleteEventById text => exact .afterId fun _ => .delete
  | deleteReadingById text => exact .afterId fun _ => .delete
  | deleteValueDescriptorById text => exact .afterId fun _ => .bind (.bind (.bind .find _) _) _
  -- with a limit of zero there is nothing to ask for, nor any event to load
  | eventsForDeviceLimit device limit => exact .limited loadEvents_nil
  | eventsByCreationTime start stop limit => exact .limited loadEvents_nil
  | readingsByDevice device limit => exact .limited rfl
  | readingsByValueDescriptor name limit => exact .limited rfl
  | readingsByValueDescriptorNames names limit => exact .limited rfl
  | readingsByCreationTime start stop limit => exact .limited rfl
  | readingsByDeviceAndValueDescriptor device name limit => exact .limited rfl
  -- the clock and the ids come from outside, so taking them is no call
  | eventsOlderThanAge age => exact Action.NeedsStore.clock fun _ => .bind .find _
  | addEvent e => exact addEvent_needsStore e
  | updateEvent e => exact Action.NeedsStore.clock fun _ => .update
  | addReading r =>
    exact Action.NeedsStore.takeId fun _ => Action.NeedsStore.clock fun _ => .bind .insert _
  | updateReading r => exact Action.NeedsStore.clock fun _ => .update
  | valueDescriptorByName name => exact valueDescriptorByName_needsStore name
  | valueDescriptorsByName names =>
    cases names with
    | nil => rfl
    | cons name names =>
      exact Action.NeedsStore.bind (valueDescriptorByName_needsStore name).ifFound _
  | addValueDescriptor d =>
    exact Action.NeedsStore.clock fun _ => Action.NeedsStore.takeId fun _ =>
      .bind (.adapt .insert d.name) _
  | updateValueDescriptor d =>
    exact Action.NeedsStore.bind (valueDescriptorByName_needsStore d.name).ifFound _

/-- On a closed store no operation ends with an unexpected error. -/
theorem Operation.calm (op : Operation) : op.action.Calm := by
  intro around w hw
  by_cases hop : op = .close
  · subst hop
    exact .ok _
  · rw [(op.settles hop).exec_closed around hw]
    cases known : op.withoutStore? with
    | none => exact .error rfl
    | some r => exact op.withoutStore?_foreseen known

end Telemetry
