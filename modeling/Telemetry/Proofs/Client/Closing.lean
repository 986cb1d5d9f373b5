import Mathlib.Logic.Relation
import Telemetry.Proofs.Client.Runs

/-!
# A closed client stays closed

All clones of a client share one store, so closing any of them closes all. Afterwards nothing
changes the store any more, neither a request through a clone nor a call that bypasses the client,
and an operation is refused unless it needs no store.

* `Later` — what can happen to a store.
* `Later.closed` — nothing happens to a closed store.
* `closed_for_good` — what every operation answers, however long ago the store has been closed.
-/

namespace Telemetry

open Program

/-- What can happen to a store: a request through a clone of its client, with ids from any
sequence, or a call of the store itself. -/
inductive Later : Memory → Memory → Prop where
  | request (q : Request) (fresh : Nat → ObjectId) (taken : Nat) (m : Memory) :
    Later m (q.serve fresh ⟨m, taken⟩).2.store
  | call (c : Call) (m : Memory) : Later m (Memory.answer c m).2

/-- Nothing happens to a closed store. -/
theorem Later.closed {m m' : Memory} (h : Later m m') (hm : m.closed = true) : m' = m := by
  cases h with
  | request q fresh taken => exact run_closed ⟨q.now, fresh⟩ q.operation.action.run hm
  | call c => exact Memory.answer_closed hm c

/-- However much happens to a closed store, it stays as it is. Nothing opens it again, not even
another client. -/
theorem eq_of_closed {m m' : Memory} (later : Relation.ReflTransGen Later m m')
    (hm : m.closed = true) : m' = m := by
  induction later with
  | refl => rfl
  | tail _ last ih =>
    subst ih
    exact last.closed hm

/-- What an operation does that needs a store, or does not. An operation that needs none has its
answer from its arguments alone. -/
structure OfStore (op : Operation) : Prop where
  /-- the store is asked, whatever it is, unless the result is known without it -/
  calls_eq_nil_iff : ∀ {σ : Type} (b : Backend σ) (around : Surroundings) (w : World σ),
    op.action.calls b around w = [] ↔ op.withoutStore?.isSome
  /-- a result that is known without the store is the same on every store -/
  exec_known : ∀ {σ : Type} (b : Backend σ) (around : Surroundings) (w : World σ) r,
    op.withoutStore? = some r → exec b around op.action w = (r, w)

/-- Every operation but closing either asks the store or knows its result beforehand, and it shows
which of the two it does. -/
theorem Operation.ofStore (op : Operation) (hop : op ≠ .close) : OfStore op := by
  have settles := op.settles hop
  -- the result is not known beforehand, and then there is a call; or it is, and then there is none
  cases known : op.withoutStore? with
  | none =>
    rw [known] at settles
    refine ⟨fun b around w => ?_, fun b around w r hr => ?_⟩
    · rw [known]
      exact iff_of_false (settles.calls_ne_nil b around w) Bool.false_ne_true
    · rw [known] at hr
      cases hr
  | some r =>
    rw [known] at settles
    have ends : op.action.run = .done r := settles
    refine ⟨fun b around w => ?_, fun b around w r' hr => ?_⟩
    · rw [known, Action.calls, ends]
      exact iff_of_true rfl rfl
    · obtain rfl := Option.some.inj (known.symm.trans hr)
      rw [exec, ends]
      rfl

/-- **Closed is closed for good**: whatever has happened to a store since it was closed, it has the
documents and the number of calls it had then. An operation changes nothing and is refused, unless
its result is known without a store; these are the lists with a limit of zero, a look-up of no
names, and a malformed id. -/
theorem closed_for_good (fresh : Nat → ObjectId) (closing : Timestamp) (w : World Memory)
    {m : Memory}
    (later : Relation.ReflTransGen Later (Request.serve fresh ⟨.close, closing⟩ w).2.store m)
    {op : Operation} (hop : op ≠ .close) :
    m = { w.store with closed := true } ∧
      (∀ around taken,
        (exec Memory.backend around op.action ⟨m, taken⟩).1
            = op.withoutStore?.getD (.error .noActiveClient) ∧
          (exec Memory.backend around op.action ⟨m, taken⟩).2.store = m) ∧
      OfStore op := by
  obtain rfl : m = { w.store with closed := true } := eq_of_closed later rfl
  refine ⟨rfl, fun around taken => ⟨?_, ?_⟩, op.ofStore hop⟩
  · exact (op.settles hop).exec_closed around rfl
  · exact run_closed around op.action.run rfl

/-- A store with a reading is closed, and then an event is to be added. The reading is still there,
and asking for it is refused. -/
theorem closed_for_good_of_reading :
    let closed := (Request.serve .numbered ⟨.close, 6⟩ firstWorld).2
    let m := (Request.serve .numbered ⟨.addEvent boilerEvent, 9⟩ closed).2.store
    Relation.ReflTransGen Later closed.store m ∧ Operation.readings ≠ .close ∧
      m.readings = firstWorld.store.readings ∧
      (exec Memory.backend ⟨10, .numbered⟩ Operation.readings.action ⟨m, 1⟩).1
        = .error .noActiveClient := by
  intro closed m
  have later : Relation.ReflTransGen Later closed.store m :=
    .single (.request ⟨.addEvent boilerEvent, 9⟩ .numbered closed.taken closed.store)
  have other : Operation.readings ≠ .close := nofun
  obtain ⟨same, answers, -⟩ := closed_for_good .numbered 6 firstWorld later other
  exact ⟨later, other, (congrArg Memory.readings same).trans rfl, (answers ⟨10, .numbered⟩ 1).1⟩

end Telemetry
