import Telemetry.Proofs.Sql.Writable

/-!
# The SQL store after it has been closed

A closed store takes no connection, so it sends nothing. What it answers depends on what a call does
before it asks for a connection. A call that cannot be written tells why, and a batch without
documents is stored at once: these two do not find out that the store is closed. The in-memory store
looks first, and refuses them too.

* `insert_closed`, `answer_closed` — the answer to each kind of call.
* `refused_when_closed_iff` — which calls are refused for want of a client.
-/

namespace Telemetry

/-- A call with nothing to store. It is the only kind of call that has nothing to do, and so the
only one that never asks for a connection. -/
def Call.Idle : Call → Prop
  | .insert _ docs => docs = []
  | _ => False

/-- Nothing can be wrong with documents that are not there. -/
theorem Call.Idle.writable {c : Call} (h : c.Idle) : c.Writable := by
  cases c with
  | insert c docs =>
    obtain rfl : docs = [] := h
    exact List.forall_mem_nil _
  | ping | find | count | update | delete | deleteAll | close => exact h.elim

namespace Sql

/-- What a closed store makes of a call. The three cases exclude each other, and which one it is can
be told from the call. -/
inductive Turned (c : Call) : Except StoreError c.Answer → Prop
  | refused (hwritable : c.Writable) (hwork : ¬c.Idle) : Turned c (.error .noActiveClient)
  | malformed (hnot : ¬c.Writable) (cause : Cause) : Turned c (.error (.unexpected cause))
  | idle (hidle : c.Idle) (a : c.Answer) : Turned c (.ok a)

section

variable {x : Session} (closed : x.link = .closed)

include closed

/-- A closed store has no connection to give. -/
theorem acquire_closed : Session.acquire x = (.error .poolClosed, x) := by
  rw [Session.acquire, closed]

/-- Documents are turned into rows before a connection is asked for, so a batch that is empty or
malformed does not find out that the store is closed. -/
theorem insert_closed (c : Collection) (docs : List Document) :
    ∃ r, insert c docs x = (r, x) ∧ Turned (.insert c docs) r := by
  by_cases hne : docs = []
  · subst hne
    exact ⟨.ok (), rfl, .idle (c := .insert c []) rfl ()⟩
  have needs := needs_rowsOf docs
  cases hrows : rowsOf docs with
  | error e =>
    rw [hrows] at needs
    cases needs with
    | unexpected hnot cause =>
      exact ⟨_, insert_of_malformed c x hne hrows, .malformed (c := .insert c docs) hnot cause⟩
  | ok rows =>
    rw [hrows] at needs
    cases needs with
    | ok ids =>
      rw [insert_of_rows c x hne hrows, connected_refused _ (acquire_closed closed)]
      exact ⟨_, rfl, .refused (c := .insert c docs) ids hne⟩

/-- A closed store answers without sending anything. What it answers depends on how far the call
gets before it asks for a connection. -/
theorem answer_closed {c : Call} (hc : c ≠ .close) : ∃ r, answer c x = (r, x) ∧ Turned c r := by
  -- a batch takes a transaction, and every other call but closing is one statement
  cases hs : statementOf c with
  | none =>
    cases c with
    | insert c docs => exact insert_closed closed c docs
    | close => exact absurd rfl hc
    | ping | find | count | update | delete | deleteAll => cases hs
  | some written =>
    have works : ¬c.Idle := by
      cases c with
      | insert => cases hs
      | ping | find | count | update | delete | deleteAll | close => exact id
    have needs := needs_statementOf hs
    cases needs with
    | ok writable s =>
      exact ⟨_, answer_refused (acquire_closed closed) hs, .refused writable works⟩
    | unexpected hnot cause =>
      exact ⟨_, answer_unwritten x hs, .malformed hnot cause⟩

/-- The answer of a closed store to a call, when the call is run as an action. -/
theorem exec_call_closed {c : Call} (hc : c ≠ .close) (around : Surroundings) (taken : Nat) :
    ∃ r, Program.exec backend around (Action.call c) ⟨x, taken⟩ = (r, ⟨x, taken⟩) ∧
      Turned c r := by
  obtain ⟨r, hr, turned⟩ := answer_closed closed hc
  refine ⟨r, ?_, turned⟩
  rw [Action.exec_call]
  exact congrArg (fun p => (p.1, (⟨p.2, taken⟩ : World Session))) hr

end

/-- What a closed store answers to every call but a further closing, and to the search for one
document and the storing of one. -/
structure AnswersClosed (x : Session) : Prop where
  /-- nothing is sent, and the store is not opened again -/
  silent : ∀ c, (answer c x).2 = x
  refused_iff : ∀ c ≠ .close,
    (answer c x).1 = .error .noActiveClient ↔ c.Writable ∧ ¬c.Idle
  malformed_iff : ∀ c ≠ .close,
    (∃ cause, (answer c x).1 = .error (.unexpected cause)) ↔ ¬c.Writable
  idle_iff : ∀ c ≠ .close, (∃ a, (answer c x).1 = .ok a) ↔ c.Idle
  findOne : ∀ c f around taken, ∃ r,
    Program.exec backend around (Action.findOne c f) ⟨x, taken⟩ = (r, ⟨x, taken⟩) ∧
      (r = .error .noActiveClient ↔ f.TextIds)
  insertOne : ∀ c d around taken, ∃ r,
    Program.exec backend around (Action.insertOne c d) ⟨x, taken⟩ = (r, ⟨x, taken⟩) ∧
      (r = .error .noActiveClient ↔ ∃ id, d.id = .ok id)

namespace Turned

variable {c : Call} {r : Except StoreError c.Answer} (h : Turned c r)

include h

/-- A call is refused for want of a client if it can be written and has something to do. -/
theorem refused_iff : r = .error .noActiveClient ↔ c.Writable ∧ ¬c.Idle := by
  cases h with
  | refused hwritable hwork => exact iff_of_true rfl ⟨hwritable, hwork⟩
  | malformed hnot => exact iff_of_false nofun fun both => hnot both.1
  | idle hidle => exact iff_of_false nofun fun both => both.2 hidle

/-- A call is said to be malformed if it is, closed store or not. -/
theorem malformed_iff : (∃ cause, r = .error (.unexpected cause)) ↔ ¬c.Writable := by
  cases h with
  | refused hwritable => exact iff_of_false (fun ⟨_, h⟩ => nomatch h) (not_not_intro hwritable)
  | malformed hnot cause => exact iff_of_true ⟨cause, rfl⟩ hnot
  | idle hidle => exact iff_of_false (fun ⟨_, h⟩ => nomatch h) (not_not_intro hidle.writable)

/-- A call succeeds on a closed store if it has nothing to do. -/
theorem idle_iff : (∃ a, r = .ok a) ↔ c.Idle := by
  cases h with
  | refused _ hwork => exact iff_of_false (fun ⟨_, h⟩ => nomatch h) hwork
  | malformed hnot =>
    exact iff_of_false (fun ⟨_, h⟩ => nomatch h) fun hidle => hnot hidle.writable
  | idle hidle a => exact iff_of_true ⟨a, rfl⟩ hidle

end Turned

/-- A closed store refuses a call for want of a client if and only if the call can be written and
has something to do. Otherwise it tells what is wrong with the call, or that nothing had to be
stored, as if it were not closed. -/
theorem refused_when_closed_iff {x : Session} (closed : x.link = .closed) : AnswersClosed x where
  silent c := by
    by_cases hc : c = .close
    · subst hc
      change { x with link := .closed } = x
      rw [← closed]
    · obtain ⟨r, hr, -⟩ := answer_closed closed hc
      rw [hr]
  refused_iff c hc := by
    obtain ⟨r, hr, turned⟩ := answer_closed closed hc
    rw [hr]
    exact turned.refused_iff
  malformed_iff c hc := by
    obtain ⟨r, hr, turned⟩ := answer_closed closed hc
    rw [hr]
    exact turned.malformed_iff
  idle_iff c hc := by
    obtain ⟨r, hr, turned⟩ := answer_closed closed hc
    rw [hr]
    exact turned.idle_iff
  findOne c f around taken := by
    obtain ⟨r, asked, turned⟩ :=
      exec_call_closed closed (c := .find c f (some 1)) (fun h => nomatch h) around taken
    rw [Action.findOne, Program.exec_bind, asked]
    cases turned with
    | refused texts => exact ⟨_, rfl, iff_of_true rfl texts⟩
    | malformed hnot cause => exact ⟨_, rfl, iff_of_false (fun h => nomatch h) hnot⟩
    | idle hidle => exact hidle.elim
  insertOne c d around taken := by
    obtain ⟨r, asked, turned⟩ :=
      exec_call_closed closed (c := .insert c [d]) (fun h => nomatch h) around taken
    refine ⟨r, asked, turned.refused_iff.trans ?_⟩
    rw [Call.Writable, List.forall_mem_singleton]
    exact and_iff_left (List.cons_ne_nil d [])

/-- A reading is looked for after the store has been closed. The query could be sent, so the missing
client is noticed. -/
theorem refused_when_closed_of_reading :
    let x := (answer .close (Session.start .ready)).2
    let c : Call := .find .readings (.eq "name" (.string "temperature")) none
    x.link = .closed ∧ c ≠ .close ∧ (answer c x).1 = .error .noActiveClient := by
  intro x c
  have closed : x.link = .closed := rfl
  have other : c ≠ .close := fun h => nomatch h
  have texts : Filter.TextIds (.eq "name" (.string "temperature")) :=
    (textIds_leaf rfl).2 fun h => absurd (Option.some.inj h) (by decide)
  exact ⟨closed, other, ((refused_when_closed_iff closed).refused_iff c other).2 ⟨texts, id⟩⟩

/-- A closed store accepts an empty batch, as it looks for documents before it looks for a
connection. -/
theorem empty_batch_when_closed :
    let x := (answer .close (Session.start .ready)).2
    x.link = .closed ∧ answer (.insert .readings []) x = (.ok (), x) ∧
      (answer (.insert .readings []) x).1 ≠ .error .noActiveClient :=
  ⟨rfl, rfl, fun h => nomatch h⟩

end Sql

end Telemetry
