import Telemetry.Program

/-!
# The calls of a program

`Program.calls` lists the calls that a program makes of a store, each with the state in which the
store takes it up. It observes the same run as `Program.run`, so what a store has been asked, and in
which order, can be stated beside what it answered.

* `Program.calls_bind` and `Action.calls_bind` — programs in a row make their calls in a row, an
  action only if the one before it has not stopped.
* `Program.Asks` and `Action.Asks` — what holds of every call that a program can make, whatever it is
  answered; `Action.Asks.bind` and its like derive it along the program, and `Action.Asks.calls`
  brings it to the calls of a run.
-/

namespace Telemetry

section

variable {σ α β : Type} (b : Backend σ) (around : Surroundings)

/-- The calls that a program makes, in order, each with the state of the store that takes it up.
Which branch is followed depends on the answers, so this is about one run. -/
def Program.calls : Program α → World σ → List (Call × σ)
  | done _, _ => []
  | call c next, w =>
    (c, w.store) :: (next (b.answer c w.store).1).calls
      { w with store := (b.answer c w.store).2 }
  | now next, w => (next around.now).calls w
  | freshId next, w => (next (around.fresh w.taken)).calls { w with taken := w.taken + 1 }

/-- Two programs in a row make the calls of the first one and then those of the second. -/
theorem Program.calls_bind (p : Program α) (f : α → Program β) (w : World σ) :
    (p.bind f).calls b around w
      = p.calls b around w ++ (f (p.run b around w).1).calls b around (p.run b around w).2 := by
  induction p generalizing w with
  | done a => rfl
  | call c next ih => exact congrArg (List.cons _) (ih ..)
  | now next ih => exact ih ..
  | freshId next ih => exact ih ..

end

namespace Action

variable {σ α β : Type} (b : Backend σ) (around : Surroundings) (w : World σ)

/-- The calls that an action makes. -/
def calls (a : Action α) : List (Call × σ) := a.run.calls b around w

@[simp] theorem calls_pure (a : α) : calls b around w (pure a : Action α) = [] := rfl

@[simp] theorem calls_throw (e : StoreError) :
    calls b around w (throw e : Action α) = [] := rfl

@[simp] theorem calls_ofExcept (r : Except StoreError α) :
    calls b around w (ofExcept r) = [] := rfl

@[simp] theorem calls_call (c : Call) : calls b around w (call c) = [(c, w.store)] := rfl

/-- The second of two actions makes its calls only if the first has not stopped. The calls of an
operation are found step by step with this. -/
theorem calls_bind (a : Action α) (f : α → Action β) :
    calls b around w (a >>= f)
      = calls b around w a ++
        match Program.exec b around a w with
        | (.ok x, w') => calls b around w' (f x)
        | (.error _, _) => [] := by
  change (a.run.bind (ExceptT.bindCont f)).calls b around w = _
  rw [Program.calls_bind]
  unfold Program.exec calls
  rcases a.run.run b around w with ⟨r, w'⟩
  cases r <;> rfl

end Action

/-! ## Every call that can be made

The calls of a run depend on the answers. Here it is said of every branch of a program, and so of
every run, that its calls have a property. -/

section

variable {σ α β : Type} {P : Call → Prop}

/-- Every call that a program may make, whatever it is answered, has the property. The states in
between do not matter, so this is proved along the program alone. -/
def Program.Asks (P : Call → Prop) : Program α → Prop
  | done _ => True
  | call c next => P c ∧ ∀ r, (next r).Asks P
  | now next => ∀ t, (next t).Asks P
  | freshId next => ∀ id, (next id).Asks P

/-- Two programs in a row ask what each of them asks. -/
theorem Program.Asks.bind {p : Program α} {f : α → Program β} (hp : p.Asks P)
    (hf : ∀ a, (f a).Asks P) : (p.bind f).Asks P := by
  induction p with
  | done a => exact hf a
  | call c next ih => exact ⟨hp.1, fun r => ih r (hp.2 r)⟩
  | now next ih => exact fun t => ih t (hp t)
  | freshId next ih => exact fun id => ih id (hp id)

/-- The calls that a program does make are among those that it may make. -/
theorem Program.Asks.calls (b : Backend σ) (around : Surroundings) {p : Program α} (hp : p.Asks P)
    (w : World σ) : ∀ q ∈ p.calls b around w, P q.1 := by
  induction p generalizing w with
  | done a => exact List.forall_mem_nil _
  | call c next ih => exact List.forall_mem_cons.2 ⟨hp.1, ih _ (hp.2 _) _⟩
  | now next ih => exact ih _ (hp _) _
  | freshId next ih => exact ih _ (hp _) _

namespace Action

/-- Every call that an action may make has the property. This is about all branches, and so about
all stores. -/
def Asks (P : Call → Prop) (a : Action α) : Prop := a.run.Asks P

namespace Asks

theorem calls (b : Backend σ) (around : Surroundings) {a : Action α} (ha : a.Asks P)
    (w : World σ) : ∀ q ∈ a.calls b around w, P q.1 :=
  Program.Asks.calls b around ha w

theorem pure (a : α) : Asks P (Pure.pure a) := trivial

theorem throw (e : StoreError) : Asks P (MonadExcept.throw e : Action α) := trivial

theorem ofExcept (r : Except StoreError α) : Asks P (Action.ofExcept r) := trivial

theorem clock : Asks P (Action.lift Program.clock) := fun _ => trivial

theorem takeId : Asks P (Action.lift Program.takeId) := fun _ => trivial

theorem call {c : Call} (hc : P c) : Asks P (Action.call c) := ⟨hc, fun _ => trivial⟩

/-- Two actions in a row ask what each of them asks. After an error nothing more is asked. -/
theorem bind {a : Action α} {f : α → Action β} (ha : a.Asks P) (hf : ∀ x, (f x).Asks P) :
    Asks P (a >>= f) := by
  refine Program.Asks.bind ha fun r => ?_
  cases r with
  | error e => exact trivial
  | ok x => exact hf x

theorem report {a : Action α} (ha : a.Asks P) (g : Except StoreError α → Except StoreError β) :
    Asks P (ExceptT.mk (a.run.bind fun r => .done (g r))) :=
  Program.Asks.bind ha fun _ => trivial

/-- The look-up of one document is a query with a limit of one. -/
theorem findOne {c : Collection} {f : Filter} (h : P (.find c f (some 1))) :
    Asks P (Action.findOne c f) := by
  refine (call h).bind fun docs => ?_
  cases docs with
  | nil => exact throw _
  | cons d docs => exact pure d

/-- A query with a limit of zero asks nothing, any other asks with its limit. -/
theorem findLimit {c : Collection} {f : Filter} {limit : UInt64}
    (h : P (.find c f (some limit))) : Asks P (Action.findLimit c f limit) := by
  unfold Action.findLimit
  split
  · exact pure []
  · exact call h

/-- A deletion by text asks for one deletion at most, of whatever id the text may be. -/
theorem deleteById {c : Collection} (text : String) (h : ∀ id, P (.delete c id)) :
    Asks P (Action.deleteById c text) :=
  (ofExcept _).bind fun id => call (h id)

end Asks

end Action

end

end Telemetry
