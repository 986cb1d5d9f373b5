import Telemetry.Client.ValueDescriptors
import Telemetry.Proofs.Catalogue

/-!
# Foreseen results

A result is foreseen if it is an answer or an error of a kind that a caller can act upon. Looking up
an entity ends so. A closed store refuses its calls with such an error, and nothing changes it.

* `Foreseen.of_fetch` — how a look-up fails.
* `run_closed` — a program leaves a closed store as it is.
-/

namespace Telemetry

open Program

/-- Whether an error is of the kind that a caller cannot act upon. All other kinds say something
about the request. -/
def StoreError.isUnexpected : StoreError → Bool
  | unexpected _ => true
  | _ => false

/-- A result that is an answer or an error of a kind that a caller can act upon. What is not
foreseen would be a fault of the store or of the data in it. -/
def Foreseen {α : Type} (r : Except StoreError α) : Prop :=
  ∀ cause, r ≠ .error (.unexpected cause)

namespace Foreseen

variable {α β : Type}

theorem ok (a : α) : Foreseen (.ok a : Except StoreError α) := fun _ h => by cases h

theorem error {e : StoreError} (h : e.isUnexpected = false) :
    Foreseen (.error e : Except StoreError α) := by
  intro cause he
  rw [Except.error.inj he] at h
  cases h

theorem of_error {e : StoreError} (h : Foreseen (.error e : Except StoreError α)) :
    Foreseen (.error e : Except StoreError β) :=
  fun cause he => h cause (congrArg _ (Except.error.inj he))

theorem map {r : Except StoreError α} (h : Foreseen r) (f : α → β) : Foreseen (r.map f) := by
  cases r with
  | ok a => exact .ok _
  | error e => exact h.of_error

/-- That nothing is there is foreseen. -/
theorem orNotFound (found : Option α) : Foreseen (Telemetry.orNotFound found) := by
  cases found with
  | some a => exact .ok a
  | none => exact .error rfl

/-- A look-up by the text of an id is foreseen, whatever the text is. -/
theorem fetch [Entity α] (s : Keyed α) (text : String) : Foreseen (s.fetch text) := by
  rcases hp : ObjectId.parse? text with _ | k
  · rw [Keyed.fetch_of_malformed hp]
    exact .error rfl
  · rw [Keyed.fetch_of_parse hp]
    exact .orNotFound _

/-- A look-up by the text of an id fails with an error that a caller can act upon. -/
theorem of_fetch [Entity α] {s : Keyed α} {text : String} {e : StoreError}
    (h : s.fetch text = .error e) : e.isUnexpected = false := by
  have foreseen := fetch s text
  rw [h] at foreseen
  cases e with
  | unexpected cause => exact absurd rfl (foreseen cause)
  | _ => rfl

end Foreseen

/-! ## Programs on a closed store -/

theorem Memory.answer_closed {m : Memory} (h : m.closed = true) (c : Call) :
    (Memory.answer c m).2 = m := by
  cases m
  cases h
  cases c <;> rfl

/-- A closed store refuses every call but closing. -/
theorem Memory.answer_of_closed {m : Memory} (h : m.closed = true) {c : Call} (hc : c ≠ .close) :
    Memory.answer c m = (.error .noActiveClient, m) := by
  cases m
  cases h
  cases c with
  | close => exact absurd rfl hc
  | _ => rfl

/-- A program leaves a closed store as it is, however many calls it makes: each is refused, and so
the store is the same for the next. -/
theorem run_closed {α : Type} (around : Surroundings) (p : Program α) {w : World Memory}
    (h : w.store.closed = true) : (p.run Memory.backend around w).2.store = w.store := by
  -- along the program: every call finds the store as the first one did
  induction p generalizing w with
  | done a => rfl
  | call c next ih =>
    have same : (Memory.backend.answer c w.store).2 = w.store := Memory.answer_closed h c
    change ((next _).run Memory.backend around
      { w with store := (Memory.backend.answer c w.store).2 }).2.store = _
    rw [same]
    exact ih _ h
  | now next ih => exact ih _ h
  | freshId next ih => exact ih _ (w := { w with taken := w.taken + 1 }) h

/-- An action with a foreseen result on every closed store. On an open one this takes a catalogue
and is shown together with the outcome. -/
def Action.Calm {α : Type} (a : Action α) : Prop :=
  ∀ (around : Surroundings) (w : World Memory), w.store.closed = true →
    Foreseen (exec Memory.backend around a w).1

end Telemetry
