import Telemetry.Collection
import Telemetry.Document.Stored
import Telemetry.Filter

/-!
# Store calls and the programs that make them

Three layers:

* `Call` — what can be asked of a document store, with the type of each answer.
* `Program` — a program that makes store calls one after another, reads the clock and takes fresh
  ids. It is data: what a program does is not fixed until it is run, and it can be run over any
  store.
* `Backend` and `Program.run` — a store answers one call at a time and changes its state; running a
  program over it threads the state through the calls.

Every operation of the client is an `Action`, a program that may stop with a store error.

* `Program.run_bind` and `Program.exec_bind` say that running two programs in a row is running the
  second where the first has left the world, for an action only if the first has not stopped.
-/

namespace Telemetry

/-- One call of a document store. These are all the ways in which a program can learn of a store or
change it, so whatever holds of every call holds of every program. -/
inductive Call where
  | ping
  /-- store new documents, all or none -/
  | insert (c : Collection) (docs : List Document)
  /-- the documents that satisfy a filter, in the order of the store, at most `limit` of them -/
  | find (c : Collection) (f : Filter) (limit : Option UInt64)
  | count (c : Collection) (f : Filter)
  /-- change the document with an id -/
  | update (c : Collection) (id : ObjectId) (u : Update)
  | delete (c : Collection) (id : ObjectId)
  /-- delete the documents that satisfy a filter; the answer is their number -/
  | deleteAll (c : Collection) (f : Filter)
  | close

/-- What a store answers to a call: documents, their number, or only that it has been done. -/
abbrev Call.Answer : Call → Type
  | find .. => List Document
  | count .. => UInt64
  | deleteAll .. => UInt64
  | _ => Unit

/-- A program over a store, a clock and a source of ids. It is a tree: each call has a branch for
every answer that a store could give, so what a program may ask can be told without a store. -/
inductive Program (α : Type) where
  | done (a : α)
  | call (c : Call) (next : Except StoreError c.Answer → Program α)
  /-- read the clock -/
  | now (next : Timestamp → Program α)
  /-- take an id that has not been taken before -/
  | freshId (next : ObjectId → Program α)

namespace Program

variable {α β γ : Type}

/-- Go on with `f` where `p` is done, on every branch. The calls of `p` stay as they are. -/
protected def bind : Program α → (α → Program β) → Program β
  | done a, f => f a
  | call c next, f => call c fun r => (next r).bind f
  | now next, f => now fun t => (next t).bind f
  | freshId next, f => freshId fun id => (next id).bind f

instance : Monad Program where
  pure := done
  bind := Program.bind

@[simp] theorem pure_eq (a : α) : (pure a : Program α) = done a := rfl

/-- Going on with a program is the `>>=` of the monad. The lemmas are about `bind`, so `simp` leads
there. -/
@[simp] theorem bind_eq (p : Program α) (f : α → Program β) : p >>= f = p.bind f := rfl

@[simp] theorem done_bind (a : α) (f : α → Program β) : (done a).bind f = f a := rfl

@[simp] theorem call_bind (c : Call) (next : Except StoreError c.Answer → Program α)
    (f : α → Program β) : (call c next).bind f = call c fun r => (next r).bind f := rfl

@[simp] theorem now_bind (next : Timestamp → Program α) (f : α → Program β) :
    (now next).bind f = now fun t => (next t).bind f := rfl

@[simp] theorem freshId_bind (next : ObjectId → Program α) (f : α → Program β) :
    (freshId next).bind f = freshId fun id => (next id).bind f := rfl

/-- Nothing is added by going on with the result as it is. -/
@[simp] theorem bind_done (p : Program α) : p.bind done = p := by
  induction p with
  | done a => rfl
  | call c next ih => exact congrArg (call c) (funext ih)
  | now next ih => exact congrArg now (funext ih)
  | freshId next ih => exact congrArg freshId (funext ih)

/-- In what groups programs in a row are put together makes no difference. -/
theorem bind_assoc (p : Program α) (f : α → Program β) (g : β → Program γ) :
    (p.bind f).bind g = p.bind fun a => (f a).bind g := by
  induction p with
  | done a => rfl
  | call c next ih => exact congrArg (call c) (funext ih)
  | now next ih => exact congrArg now (funext ih)
  | freshId next ih => exact congrArg freshId (funext ih)

/-- The time of the clock, as it is when the program comes to it. It is read once for each place
that asks for it. -/
def clock : Program Timestamp := now done

/-- A fresh id. It counts as taken from then on, whether it is used or not. -/
def takeId : Program ObjectId := freshId done

end Program

/-! ## Running a program -/

/-- A store: how it answers a call and what becomes of its state. A store may fail a call and still
change. -/
structure Backend (σ : Type) where
  answer : (c : Call) → σ → Except StoreError c.Answer × σ

/-- What a program finds around it: the time, which does not pass while it runs, and the ids in the
order in which they are taken. Nothing is assumed of the ids here; where they have to differ, this
is said. -/
structure Surroundings where
  now : Timestamp
  fresh : Nat → ObjectId

/-- The state of a store and the number of ids taken so far. Nothing else is left behind by a
program. -/
structure World (σ : Type) where
  store : σ
  taken : Nat

/-- Run a program over a store: each call is answered by the store as the calls before have left it,
and the branch of the answer is followed. The other branches are not run, and a failed call does not
end the program; that is for the branch to decide. -/
def Program.run {σ α : Type} (b : Backend σ) (around : Surroundings) :
    Program α → World σ → α × World σ
  | done a, w => (a, w)
  | call c next, w =>
    let (r, store) := b.answer c w.store
    (next r).run b around { w with store := store }
  | now next, w => (next around.now).run b around w
  | freshId next, w => (next (around.fresh w.taken)).run b around { w with taken := w.taken + 1 }

section

variable {σ α β : Type} (b : Backend σ) (around : Surroundings)

@[simp] theorem Program.run_done (a : α) (w : World σ) : (done a).run b around w = (a, w) := rfl

/-- Running two programs in a row is running the second where the first has left the world. The
induction is over the first program and follows its branches. -/
theorem Program.run_bind (p : Program α) (f : α → Program β) (w : World σ) :
    (p.bind f).run b around w
      = (f (p.run b around w).1).run b around (p.run b around w).2 := by
  induction p generalizing w with
  | done a => rfl
  | call c next ih => exact ih ..
  | now next ih => exact ih ..
  | freshId next ih => exact ih ..

end

/-! ## Programs that may fail -/

/-- Run a program that may stop with an error; the world is kept as the program has left it. There
is no way back from an error: what has been done to the store until then stays done. -/
def Program.exec {σ ε α : Type} (b : Backend σ) (around : Surroundings) (p : ExceptT ε Program α)
    (w : World σ) : Except ε α × World σ := p.run.run b around w

section

variable {σ ε α β : Type} (b : Backend σ) (around : Surroundings) (w : World σ)

@[simp] theorem Program.exec_pure (a : α) :
    exec b around (pure a : ExceptT ε Program α) w = (.ok a, w) := rfl

@[simp] theorem Program.exec_throw (e : ε) :
    exec b around (throw e : ExceptT ε Program α) w = (.error e, w) := rfl

/-- The second of two programs is run only if the first has not stopped. Every run of an operation
is taken apart by this. -/
theorem Program.exec_bind (p : ExceptT ε Program α) (f : α → ExceptT ε Program β) :
    exec b around (p >>= f) w
      = match exec b around p w with
        | (.ok a, w) => exec b around (f a) w
        | (.error e, w) => (.error e, w) := by
  change (p.run.bind (ExceptT.bindCont f)).run b around w = _
  rw [run_bind]
  unfold exec
  -- whether the first program has stopped is all that matters of its run
  rcases p.run.run b around w with ⟨r, w'⟩
  cases r <;> rfl

end

/-! ## Actions -/

/-- A program that may stop with a store error. What it has done to the store until then stays done,
since a store has no transaction over several calls. -/
abbrev Action (α : Type) := ExceptT StoreError Program α

namespace Action

/-- Make one store call, and stop with its error if it fails. -/
def call (c : Call) : Action c.Answer := ExceptT.mk (Program.call c Program.done)

/-- Go on with a result that has been worked out without the store. If it is an error the action
stops before its next call. -/
def ofExcept {α : Type} (r : Except StoreError α) : Action α := ExceptT.mk (Program.done r)

/-- Run a program that cannot fail, such as reading the clock or taking an id. -/
def lift {α : Type} (p : Program α) : Action α := ExceptT.mk (p.bind fun a => .done (.ok a))

section

variable {σ α : Type} (b : Backend σ) (around : Surroundings) (w : World σ)

/-- A call is answered by the store, and only the store is changed. -/
@[simp] theorem exec_call (c : Call) :
    Program.exec b around (call c) w
      = ((b.answer c w.store).1, { w with store := (b.answer c w.store).2 }) := rfl

@[simp] theorem exec_ofExcept (r : Except StoreError α) :
    Program.exec b around (ofExcept r) w = (r, w) := rfl

@[simp] theorem exec_lift (p : Program α) :
    Program.exec b around (lift p) w = (.ok (p.run b around w).1, (p.run b around w).2) :=
  Program.run_bind b around p _ w

end

/-- The first document that satisfies a filter. The store is asked for no more than one, and that
there is none is an error. -/
def findOne (c : Collection) (f : Filter) : Action Document := do
  match ← call (.find c f (some 1)) with
  | d :: _ => return d
  | [] => throw .notFound

/-- Store one new document, as a batch of one. There is no other way to store one. -/
def insertOne (c : Collection) (d : Document) : Action Unit := call (.insert c [d])

/-- At most `limit` documents that satisfy a filter; for a limit of zero the store is not asked, and
so it makes no difference whether the store is open. -/
def findLimit (c : Collection) (f : Filter) (limit : UInt64) : Action (List Document) :=
  if limit = 0 then return [] else call (.find c f (some limit))

/-- Delete the document whose id is given as text. A text that is no id is refused before the store
is asked. -/
def deleteById (c : Collection) (text : String) : Action Unit := do
  let id ← ofExcept (parseId text)
  call (.delete c id)

end Action

end Telemetry
