import Telemetry.Proofs.Sql.Exchange

/-!
# Exchanges that fail

An exchange is bad if the server refuses the statement or sends a row that is not what the call
expects. A log of exchanges stops at the first bad one if nothing comes after it, save the rollback
of a transaction that is open by then, and if the failure is reported.

* `Stops` — the logs that do so, together with the failure that is reported.
* `Stops.append`, `Stops.report` — logs in a row, and failures that are renamed.
* `Stops.after_bad` — what `Stops` says of every place where a log may be cut.
* `Stops.transaction`, `read_bad`, `foundIn_cases` — the calls of the store.
-/

namespace Telemetry.Sql

/-! ## Exchanges that fail -/

/-- Whether a document can be read as what the collection keeps. The decoders are the ones that the
client uses. -/
def fits (c : Collection) (d : Document) : Bool :=
  match c with
  | .events => (d.decode EventRecord.decoder).isOk
  | .readings => (d.decode Reading.decoder).isOk
  | .valueDescriptors => (d.decode ValueDescriptor.decoder).isOk

namespace Exchange

/-- Whether the server answers the statement with an error. A reply that is missing is no refusal.
-/
def refused (y : Exchange) : Bool :=
  match y.reply with
  | some (.failure _) => true
  | _ => false

/-- The values of the rows that the server sends. -/
def cells (y : Exchange) : List Cell :=
  match y.reply with
  | some (.rows cells) => cells
  | _ => []

/-- Whether the value of a row is what the call expects: the document of an entity, or a whole
number where rows are counted. What the store makes of other values is not asked here. -/
def expects (y : Exchange) (cell : Cell) : Bool :=
  match y.call with
  | .find c _ _ =>
    match cellDocument cell with
    | .ok d => fits c d
    | .error _ => false
  | .count .. =>
    match cell with
    | .integer _ => true
    | .text _ | .null | .other _ => false
  | _ => true

/-- Whether the server refuses the statement or sends a row that is not as expected. One such row
among many is enough. -/
def bad (y : Exchange) : Bool := y.refused || !y.cells.all y.expects

/-- The server sends no more rows than a query is limited to, and a single row for a count. This is
the only thing that is asked of a server, and it may still refuse any statement. -/
def Fair (y : Exchange) : Prop :=
  match y.call with
  | .find _ _ (some limit) => y.cells.length ≤ limit.toNat
  | .count .. => ∀ cells, y.reply = some (.rows cells) → cells.length = 1
  | _ => True

/-- Whether a transaction is open after the exchange, if one is or is not before it. A commit that
is refused leaves it open. -/
def leaves (active : Bool) (y : Exchange) : Bool :=
  if y.statement = beginning then !y.refused
  else if y.statement = committing then active && y.refused
  else if y.statement = rollingBack then false
  else active

end Exchange

/-- Whether a transaction is open after some exchanges. -/
def transactionOpen (log : List Exchange) : Bool := log.foldl Exchange.leaves false

/-! ## Logs that stop

A log stops where an exchange is bad: nothing but the rollback of an open transaction follows, and
the action ends with an error. The predicate carries whether a transaction is open, as this decides
if there is one to be given up. -/

/-- The error an action has stopped with, if it has. An answer of the action that says that nothing
is there is no failure of the server, but it is an error here. -/
def failure? {α : Type} : Except StoreError α → Option StoreError
  | .ok _ => none
  | .error e => some e

theorem failure?_eq_some {α : Type} {r : Except StoreError α} {e : StoreError} :
    failure? r = some e ↔ r = .error e := by
  cases r <;> simp [failure?]

/-- A log that starts with a transaction open or not, and the failure that is reported after it. No
exchange is bad but the last, not counting the rollback of a transaction that it leaves open. After
a bad one there is a failure, and it does not say that nothing has been found. -/
inductive Stops : Bool → List Exchange → Option StoreError → Prop
  | done {failure : Option StoreError} : Stops false [] failure
  | good {active : Bool} {y : Exchange} {log : List Exchange} {failure : Option StoreError}
    (fine : y.bad = false) (rest : Stops (y.leaves active) log failure) :
    Stops active (y :: log) failure
  | failed {active : Bool} {y : Exchange} {e : StoreError} (closed : y.leaves active = false)
    (lost : e ≠ .notFound) : Stops active [y] (some e)
  | rolledBack {active : Bool} {y : Exchange} {c : Call} {e : StoreError}
    (opened : y.leaves active = true) (lost : e ≠ .notFound) :
    Stops active [y, ⟨c, rollingBack, none⟩] (some e)

namespace Stops

variable {active : Bool} {log log' : List Exchange} {failure failure' : Option StoreError}

/-- An action that goes on has met no failure so far, and has left no transaction open. -/
theorem append (h : Stops active log none) (h' : Stops false log' failure) :
    Stops active (log ++ log') failure := by
  generalize hnone : (none : Option StoreError) = f at h
  induction h with
  | done => exact h'
  | good fine _ ih => exact .good fine (ih hnone)
  | failed | rolledBack => cases hnone

/-- What an action reports may change, if failures of the server are still reported. -/
theorem report (h : Stops active log failure)
    (hr : ∀ e, e ≠ .notFound → failure = some e → ∃ e', e' ≠ .notFound ∧ failure' = some e') :
    Stops active log failure' := by
  induction h with
  | done => exact .done
  | good fine _ ih => exact .good fine (ih hr)
  | failed closed lost =>
    obtain ⟨e', lost', rfl⟩ := hr _ lost rfl
    exact .failed closed lost'
  | rolledBack opened lost =>
    obtain ⟨e', lost', rfl⟩ := hr _ lost rfl
    exact .rolledBack opened lost'

/-- After a bad exchange nothing is sent but the rollback of an open transaction, and the failure is
one that nobody takes for nothing found. -/
theorem after_bad {before after : List Exchange} {y : Exchange} (h : Stops active log failure)
    (hlog : log = before ++ y :: after) (hbad : y.bad = true) :
    (∃ e, failure = some e ∧ e ≠ .notFound) ∧
      after.map Exchange.statement
        = if (before ++ [y]).foldl Exchange.leaves active then [rollingBack] else [] := by
  -- on how the log stops; the place where it is cut moves along with it
  induction h generalizing before with
  | done => simp at hlog
  | good fine rest ih =>
    rcases before with _ | ⟨z, before⟩
    · obtain ⟨rfl, rfl⟩ := List.cons.inj hlog
      rw [fine] at hbad
      cases hbad
    · obtain ⟨rfl, rfl⟩ := List.cons.inj hlog
      exact ih rfl
  | @failed active y' e closed lost =>
    rcases before with _ | ⟨z, before⟩
    · obtain ⟨rfl, rfl⟩ := List.cons.inj hlog
      refine ⟨⟨e, rfl, lost⟩, ?_⟩
      simp [closed]
    · simp at hlog
  | @rolledBack active y' c e opened lost =>
    rcases before with _ | ⟨z, before⟩
    · obtain ⟨rfl, rfl⟩ := List.cons.inj hlog
      refine ⟨⟨e, rfl, lost⟩, ?_⟩
      simp [opened]
    · -- a rollback has no answer that could be bad
      obtain ⟨rfl, hrest⟩ := List.cons.inj hlog
      rcases before with _ | ⟨z, before⟩
      · obtain ⟨rfl, rfl⟩ := List.cons.inj hrest
        cases hbad
      · simp at hrest

end Stops

/-! ## Calls -/

/-- No error of the server is taken for nothing found. -/
theorem ofLink_server_ne_notFound (e : ServerError) :
    StoreError.ofLink (.server e) ≠ .notFound := by
  rw [StoreError.ofLink]
  split <;> simp

/-- An ordinary statement neither opens nor closes a transaction. -/
theorem leaves_ordinary {y : Exchange} (h : Ordinary y.statement) (active : Bool) :
    y.leaves active = active := by
  rw [Exchange.leaves, if_neg h.1, if_neg h.2.1, if_neg h.2.2]

section

variable (c : Collection) (docs : List Document)

/-- Storing documents expects no rows, so only a refusal is bad. -/
theorem bad_insert (s : Statement) (reply : Option Reply) :
    Exchange.bad ⟨.insert c docs, s, reply⟩ = Exchange.refused ⟨.insert c docs, s, reply⟩ := by
  have expected : List.all (Exchange.cells ⟨.insert c docs, s, reply⟩)
      (Exchange.expects ⟨.insert c docs, s, reply⟩) = true := List.all_eq_true.2 fun _ _ => rfl
  rw [Exchange.bad, expected, Bool.not_true, Bool.or_false]

/-- Statements that are accepted leave the transaction as it is, and the log goes on after them with
the replies that are left. -/
theorem Stops.ordinary {script : Script} {ss ss' : List Statement} {failure : Option StoreError}
    (hss : ∀ s ∈ ss, Ordinary s) (haccepts : Accepts script.replies ss.length)
    (rest : Stops true ({ script with replies := script.replies.drop ss.length }.exchanges
      (.insert c docs) ss') failure) :
    Stops true (script.exchanges (.insert c docs) (ss ++ ss')) failure := by
  -- on the statements, each taking one reply of the script
  induction ss generalizing script with
  | nil => exact rest
  | cons s ss ih =>
    obtain ⟨hs, hss⟩ := List.forall_mem_cons.1 hss
    rw [List.cons_append, Script.exchanges_ordinary _ _ hs]
    refine .good ?_ ?_
    · rw [bad_insert, Exchange.refused]
      split
      · next e he =>
        rw [List.head?_eq_getElem?] at he
        exact absurd he (haccepts 0 (Nat.zero_lt_succ _) e)
      · rfl
    · rw [leaves_ordinary hs]
      refine ih hss ?_ ?_
      · intro i hi e
        rw [List.getElem?_tail]
        exact haccepts (i + 1) (Nat.succ_lt_succ hi) e
      · rw [List.drop_tail]
        exact rest

/-- A transaction stops at the first statement that is refused, and is then given up. The cases are
those of `Transaction`: not begun, stopped on the way, not committed, committed. -/
theorem Stops.transaction {x : Session} {ss : List Statement} {r : Except LinkError Unit}
    {trace : List Statement} (hss : ∀ s ∈ ss, Ordinary s) (h : Transaction x ss r trace) :
    Stops false (x.script.exchanges (.insert c docs) trace)
      (failure? (r.mapError StoreError.ofLink)) := by
  -- each of the four ways to end has its own way to stop
  cases h with
  | @notBegun e begins =>
    rw [Script.exchanges_beginning, show x.script.beginFailure = _ from begins]
    exact .failed rfl (ofLink_server_ne_notFound e)
  | @stopped i e begins hi accepts fails =>
    -- the statements before the one that fails are accepted
    have upTo : beginning :: ss.take (i + 1) ++ [rollingBack]
        = beginning :: (ss.take i ++ [ss[i], rollingBack]) := by
      rw [← List.take_append_getElem hi, List.cons_append, List.append_assoc]
      rfl
    have before : (ss.take i).length = i := List.length_take_of_le (Nat.le_of_lt hi)
    rw [upTo, Script.exchanges_beginning, show x.script.beginFailure = _ from begins]
    refine .good rfl (.ordinary c docs (fun s hs => hss s (List.mem_of_mem_take hs)) ?_ ?_)
    · rwa [before]
    · have hs : Ordinary ss[i] := hss _ (List.getElem_mem hi)
      rw [Script.exchanges_ordinary _ _ hs, Script.exchanges_rollingBack]
      exact .rolledBack (leaves_ordinary hs true) (ofLink_server_ne_notFound e)
  | @notCommitted e begins accepts commits =>
    rw [List.cons_append, Script.exchanges_beginning, show x.script.beginFailure = _ from begins]
    refine .good rfl (.ordinary c docs hss accepts ?_)
    rw [Script.exchanges_committing, show Script.commitFailure _ = _ from commits]
    exact .rolledBack rfl (ofLink_server_ne_notFound e)
  | committed begins accepts commits =>
    rw [List.cons_append, Script.exchanges_beginning, show x.script.beginFailure = _ from begins]
    refine .good rfl (.ordinary c docs hss accepts ?_)
    rw [Script.exchanges_committing, show Script.commitFailure _ = _ from commits]
    exact .good rfl .done

end

/-- A refusal is an error whatever the call. -/
theorem read_refused {c : Call} (hs : (statementOf c).isSome) (e : ServerError) :
    read c (some (.failure e)) = .error (.ofLink (.server e)) := by
  cases c with
  | insert | close => cases hs
  | _ => rfl

/-- A value that cannot be read is not taken for a row that is missing. -/
theorem ofLink_refusal (cell : Cell) (column wanted sqlWanted : String) :
    StoreError.ofLink (cell.refusal column wanted sqlWanted)
      = .unexpected (.link (cell.refusal column wanted sqlWanted)) := rfl

/-- A bad reply to a call of one statement other than a query is an error. A query is judged by what
is done with its documents, so it is left out here. -/
theorem read_bad {c : Call} {s : Statement} {reply : Option Reply} (hs : (statementOf c).isSome)
    (hc : ∀ coll f limit, c ≠ .find coll f limit) (hfair : Exchange.Fair ⟨c, s, reply⟩)
    (hbad : Exchange.bad ⟨c, s, reply⟩ = true) :
    ∃ e, e ≠ .notFound ∧ read c reply = .error e := by
  -- a missing reply and a number of rows are never bad
  rcases reply with _ | e | cells | n
  · cases hbad
  · exact ⟨_, ofLink_server_ne_notFound e, read_refused hs e⟩
  · obtain ⟨cell, hcell, hno⟩ : ∃ cell ∈ cells, Exchange.expects ⟨c, s, some (.rows cells)⟩ cell
        = false := by
      simpa [Exchange.bad, Exchange.refused, Exchange.cells] using hbad
    cases c with
    | find coll f limit => exact absurd rfl (hc coll f limit)
    | count coll f =>
      obtain ⟨only, rfl⟩ := List.length_eq_one_iff.1 (hfair cells rfl)
      obtain rfl := List.mem_singleton.1 hcell
      cases cell with
      | integer n => cases hno
      | _ => exact ⟨_, by simp [ofLink_refusal], rfl⟩
    | _ => cases hno
  · cases hbad

/-- A row that is no document is not taken for one that is missing. So what is done where nothing
has been found is not done for such a row. -/
theorem cellDocument_cases (cell : Cell) :
    (∃ d, cellDocument cell = .ok d) ∨ ∃ e, e ≠ .notFound ∧ cellDocument cell = .error e := by
  cases cell with
  | text s =>
    rw [cellDocument]
    split
    · split
      · exact .inl ⟨_, rfl⟩
      · exact .inr ⟨_, by simp, rfl⟩
    · exact .inr ⟨_, by simp, rfl⟩
  | _ => exact .inr ⟨_, by simp [ofLink_refusal], rfl⟩

/-- Rows are read as documents one by one, or there is an error, which again is not that nothing has
been found. -/
theorem cellDocuments_cases (cells : List Cell) :
    (∃ docs, cellDocuments cells = .ok docs ∧
      List.Forall₂ (fun cell d => cellDocument cell = .ok d) cells docs) ∨
    ∃ e, e ≠ .notFound ∧ cellDocuments cells = .error e := by
  induction cells with
  | nil => exact .inl ⟨[], rfl, .nil⟩
  | cons cell cells ih =>
    rw [cellDocuments]
    rcases cellDocument_cases cell with ⟨d, hd⟩ | ⟨e, lost, he⟩
    · rcases ih with ⟨docs, hdocs, hall⟩ | ⟨e, lost, he⟩
      · rw [hd, hdocs]
        exact .inl ⟨d :: docs, rfl, .cons hd hall⟩
      · rw [hd, he]
        exact .inr ⟨e, lost, rfl⟩
    · rw [he]
      exact .inr ⟨e, lost, rfl⟩

/-- Rows of documents that fit are as expected. -/
theorem bad_of_fits {c : Collection} {f : Filter} {limit : Option UInt64} {s : Statement}
    {cells : List Cell} {docs : List Document}
    (hall : List.Forall₂ (fun cell d => cellDocument cell = .ok d) cells docs)
    (hfits : ∀ d ∈ docs, fits c d = true) :
    Exchange.bad ⟨.find c f limit, s, some (.rows cells)⟩ = false := by
  have expected : ∀ cell ∈ cells,
      Exchange.expects ⟨.find c f limit, s, some (.rows cells)⟩ cell = true := by
    induction hall with
    | nil => simp
    | @cons cell d cells docs hd _ ih =>
      obtain ⟨hfit, hfits⟩ := List.forall_mem_cons.1 hfits
      refine List.forall_mem_cons.2 ⟨?_, ih hfits⟩
      simp only [Exchange.expects, hd]
      exact hfit
  simpa [Exchange.bad, Exchange.refused, Exchange.cells] using expected

/-- A query for documents brings no more of them than it is limited to, and nothing is wrong with
the reply if all of them fit; or there is an error. -/
theorem foundIn_cases {c : Collection} {f : Filter} {limit : Option UInt64} {s : Statement}
    {reply : Option Reply} (hfair : Exchange.Fair ⟨.find c f limit, s, reply⟩) :
    (∃ docs, foundIn reply = .ok docs ∧ (∀ n, limit = some n → docs.length ≤ n.toNat) ∧
      ((∀ d ∈ docs, fits c d = true) → Exchange.bad ⟨.find c f limit, s, reply⟩ = false)) ∨
    ∃ e, e ≠ .notFound ∧ foundIn reply = .error e := by
  rcases reply with _ | e | cells | n
  · exact .inl ⟨[], rfl, fun _ _ => Nat.zero_le _, fun _ => rfl⟩
  · exact .inr ⟨_, ofLink_server_ne_notFound e, rfl⟩
  · rcases cellDocuments_cases cells with ⟨docs, hdocs, hall⟩ | failed
    · refine .inl ⟨docs, hdocs, ?_, bad_of_fits hall⟩
      rintro n rfl
      rw [← hall.length_eq]
      exact hfair
    · exact .inr failed
  · exact .inl ⟨[], rfl, fun _ _ => Nat.zero_le _, fun _ => rfl⟩

end Telemetry.Sql
