import Mathlib.Data.List.Forall2
import Telemetry.Proofs.Entity
import Telemetry.Sql.Store

/-!
# A bulk insert is one transaction

New documents are sent as rows, a thousand in a statement, between a beginning and a commit. The
server may refuse any of these statements. `Transaction` lists the four ways in which that can end,
each with all that has been sent, and what the store promises about commits and rollbacks is read
off them.

* `executeAll_accepted`, `executeAll_refused` — statements are sent up to the first that fails.
* `transaction_executeAll` — a transaction of statements ends in one of the four ways.
* `Transacted` — when the commit is sent, when the transaction succeeds, and when it is given up.
* `Batches` — the rows of the statements are the documents, in order, none lost or repeated.
* `bulk_insert` — what storing documents sends, and when it succeeds, for every script of replies.
-/

namespace Telemetry.Sql

/-! ## The statements of a transaction -/

/-- The statement that begins a transaction. -/
abbrev beginning : Statement := .plain "BEGIN"

/-- The statement that commits a transaction. -/
abbrev committing : Statement := .plain "COMMIT"

/-- The statement that gives a transaction up. -/
abbrev rollingBack : Statement := .plain "ROLLBACK"

/-- The three statements differ, so that a log shows which of them has been sent. -/
theorem committing_ne_beginning : committing ≠ beginning := by decide

theorem committing_ne_rollingBack : committing ≠ rollingBack := by decide

theorem beginning_ne_rollingBack : beginning ≠ rollingBack := by decide

/-- A statement that neither begins nor ends a transaction. All statements for calls are of this
kind but the three words of a transaction. -/
def Ordinary (s : Statement) : Prop := s ≠ beginning ∧ s ≠ committing ∧ s ≠ rollingBack

instance (s : Statement) : Decidable (Ordinary s) := inferInstanceAs (Decidable (_ ∧ _ ∧ _))

/-- A statement is ordinary if its text begins like none of those that begin or end a transaction.
The first character is enough to see it. -/
theorem ordinary_ofPieces {words : String} (first : Char) (ps : List Piece)
    (hwords : words.toList.head? = some first) (hfirst : first ∉ ['B', 'C', 'R']) :
    Ordinary (.ofPieces (.words words :: ps)) := by
  have head : (Statement.ofPieces (.words words :: ps)).text.toList.head? = some first := by
    rw [Statement.ofPieces, List.map_cons, String.join_cons, String.toList_append,
      List.head?_append]
    exact congrArg (Option.or · _) hwords
  -- the first characters differ, and that is all that has to be looked at
  have differs {text : String} {f : Char} (hf : text.toList.head? = some f)
      (hne : first ≠ f) : Statement.ofPieces (.words words :: ps) ≠ .plain text := by
    intro he
    rw [he] at head
    exact hne (Option.some.inj (head.symm.trans hf))
  simp only [List.mem_cons, List.not_mem_nil, or_false, not_or] at hfirst
  exact ⟨differs rfl hfirst.1, differs rfl hfirst.2.1, differs rfl hfirst.2.2⟩

theorem ordinary_insertRows (c : Collection) (rows : List Row) : Ordinary (insertRows c rows) :=
  ordinary_ofPieces 'I' _ (by simp) (by decide)

/-- The first `n` replies refuse nothing. A reply that is missing refuses nothing either, and
neither does one with rows or with a number. -/
def Accepts (replies : List Reply) (n : Nat) : Prop :=
  ∀ i < n, ∀ e, replies[i]? ≠ some (.failure e)

/-- Either the first `n` replies refuse nothing, or one of them is the first to refuse. Only that
one matters: what comes after it is never read. -/
theorem accepts_or_refuses (replies : List Reply) (n : Nat) :
    Accepts replies n ∨ ∃ i e, i < n ∧ Accepts replies i ∧ replies[i]? = some (.failure e) := by
  induction n with
  | zero => exact .inl fun i hi => absurd hi (Nat.not_lt_zero i)
  | succ n ih =>
    rcases ih with haccepts | ⟨i, e, hi, haccepts, hfail⟩
    · by_cases hlast : ∃ e, replies[n]? = some (.failure e)
      · obtain ⟨e, hfail⟩ := hlast
        exact .inr ⟨n, e, Nat.lt_succ_self n, haccepts, hfail⟩
      · refine .inl fun i hi e hfail => ?_
        rcases Nat.lt_succ_iff_lt_or_eq.1 hi with hi | rfl
        · exact haccepts i hi e hfail
        · exact hlast ⟨e, hfail⟩
    · exact .inr ⟨i, e, Nat.lt_succ_of_lt hi, haccepts, hfail⟩

namespace Session

/-- The session after statements that have taken a reply each. It says nothing of what the replies
were. -/
def after (x : Session) (ss : List Statement) : Session :=
  { x with replies := x.replies.drop ss.length, sent := x.sent ++ ss }

theorem after_cons (x : Session) (s : Statement) (ss : List Statement) :
    (x.after [s]).after ss = x.after (s :: ss) := by
  simp [after]

theorem send_eq (s : Statement) (x : Session) :
    x.send s = (x.replies.head?, x.after [s]) := by
  rw [send, after, List.length_singleton, List.drop_one]
  rfl

/-- A statement that is not refused succeeds, with some number of rows. -/
theorem execute_accepted {x : Session} (s : Statement)
    (h : ∀ e, x.replies[0]? ≠ some (.failure e)) :
    ∃ n, execute s x = (.ok n, x.after [s]) := by
  rw [← List.head?_eq_getElem?] at h
  rw [execute, send_eq]
  cases hreply : x.replies.head? with
  | none => exact ⟨0, rfl⟩
  | some reply =>
    cases reply with
    | failure e => exact absurd hreply (h e)
    | rows cells => exact ⟨0, rfl⟩
    | affected n => exact ⟨n, rfl⟩

/-- A statement that is refused fails with the error of the server, and has been sent all the same.
-/
theorem execute_refused {x : Session} {e : ServerError} (s : Statement)
    (h : x.replies[0]? = some (.failure e)) : execute s x = (.error (.server e), x.after [s]) := by
  rw [execute, send_eq, List.head?_eq_getElem?, h]

/-- If no reply refuses, all statements are sent and the work succeeds. How many rows a reply says
have changed is not looked at. -/
theorem executeAll_accepted (ss : List Statement) {x : Session}
    (h : Accepts x.replies ss.length) : executeAll ss x = (.ok (), x.after ss) := by
  -- on the statements; the session moves on, so the replies are those from the second on
  induction ss generalizing x with
  | nil =>
    change (_, x) = (_, { x with sent := x.sent ++ [] })
    rw [List.append_nil]
  | cons s ss ih =>
    obtain ⟨n, hs⟩ := execute_accepted s (h 0 (Nat.zero_lt_succ _))
    have rest : Accepts (x.after [s]).replies ss.length := by
      intro i hi e
      rw [after, List.length_singleton, List.getElem?_drop, Nat.add_comm]
      exact h (i + 1) (Nat.succ_lt_succ hi) e
    rw [executeAll, hs]
    dsimp only
    rw [ih rest, after_cons]

/-- Nothing is sent after the first statement that fails. The statements before it have been sent,
and it is for the transaction to undo them. -/
theorem executeAll_refused {ss : List Statement} {x : Session} {i : Nat} {e : ServerError}
    (hi : i < ss.length) (haccepts : Accepts x.replies i)
    (hfail : x.replies[i]? = some (.failure e)) :
    executeAll ss x = (.error (.server e), x.after (ss.take (i + 1))) := by
  -- on the statements, each step bringing the refused one closer by one
  induction ss generalizing x i with
  | nil => exact absurd hi (Nat.not_lt_zero i)
  | cons s ss ih =>
    cases i with
    | zero =>
      rw [executeAll, execute_refused s hfail]
      rfl
    | succ i =>
      obtain ⟨n, hs⟩ := execute_accepted s (haccepts 0 (Nat.zero_lt_succ _))
      have later (j : Nat) : (x.after [s]).replies[j]? = x.replies[j + 1]? := by
        rw [after, List.length_singleton, List.getElem?_drop, Nat.add_comm]
      have rest : Accepts (x.after [s]).replies i := by
        intro j hj e
        rw [later]
        exact haccepts (j + 1) (Nat.succ_lt_succ hj) e
      rw [executeAll, hs]
      dsimp only
      rw [ih (Nat.lt_of_succ_lt_succ hi) rest ((later i).trans hfail), after_cons,
        List.take_succ_cons]

section

variable {work : Work Unit} {x x' : Session} {e : ServerError}

/-- A transaction that is not begun ends there. There is nothing to give up, so no rollback is sent.
-/
theorem transaction_not_begun (hbegin : x.beginFailure = some e) :
    transaction work x = (.error (.server e), x.record beginning) := by
  rw [transaction, begin, hbegin]

/-- If the work fails, the transaction is given up and the error of the work is reported. -/
theorem transaction_stopped {e : LinkError} (hbegin : x.beginFailure = none)
    (hwork : work (x.record beginning) = (.error e, x')) :
    transaction work x = (.error e, x'.record rollingBack) := by
  rw [transaction, begin, hbegin]
  dsimp only
  rw [hwork]
  rfl

/-- If the commit fails, the transaction is given up after it, with the error of the commit. -/
theorem transaction_not_committed (hbegin : x.beginFailure = none)
    (hwork : work (x.record beginning) = (.ok (), x')) (hcommit : x'.commitFailure = some e) :
    transaction work x = (.error (.server e), (x'.record committing).record rollingBack) := by
  rw [transaction, begin, hbegin]
  dsimp only
  rw [hwork]
  dsimp only
  rw [commit, hcommit]
  rfl

/-- If the work and the commit succeed, so does the transaction. -/
theorem transaction_committed (hbegin : x.beginFailure = none)
    (hwork : work (x.record beginning) = (.ok (), x')) (hcommit : x'.commitFailure = none) :
    transaction work x = (.ok (), x'.record committing) := by
  rw [transaction, begin, hbegin]
  dsimp only
  rw [hwork]
  dsimp only
  rw [commit, hcommit]

end

end Session

/-! ## Transactions

A transaction ends in one of four ways, and the replies decide in which. Everything that is promised
of the storing of documents is read off these four. -/

/-- How a transaction of some statements ends, and all that is sent for it. The four cases exclude
each other, and each names the replies that lead to it. -/
inductive Transaction (x : Session) (ss : List Statement) :
    Except LinkError Unit → List Statement → Prop where
  /-- the server does not begin it -/
  | notBegun {e : ServerError} (begins : x.beginFailure = some e) :
    Transaction x ss (.error (.server e)) [beginning]
  /-- the server refuses a statement, the first such one being the last that is sent -/
  | stopped {i : Nat} {e : ServerError} (begins : x.beginFailure = none) (hi : i < ss.length)
    (accepts : Accepts x.replies i) (fails : x.replies[i]? = some (.failure e)) :
    Transaction x ss (.error (.server e)) (beginning :: ss.take (i + 1) ++ [rollingBack])
  /-- the server does not commit it -/
  | notCommitted {e : ServerError} (begins : x.beginFailure = none)
    (accepts : Accepts x.replies ss.length) (commits : x.commitFailure = some e) :
    Transaction x ss (.error (.server e)) (beginning :: ss ++ [committing, rollingBack])
  | committed (begins : x.beginFailure = none) (accepts : Accepts x.replies ss.length)
    (commits : x.commitFailure = none) :
    Transaction x ss (.ok ()) (beginning :: ss ++ [committing])

/-- A transaction of statements ends in one of the four ways, and what it sends is appended to the
session. -/
theorem transaction_executeAll (ss : List Statement) (x : Session) :
    ∃ r x' trace, Session.transaction (Session.executeAll ss) x = (r, x') ∧
      x'.sent = x.sent ++ trace ∧ Transaction x ss r trace := by
  cases hbegin : x.beginFailure with
  | some e =>
    exact ⟨_, _, _, Session.transaction_not_begun hbegin, rfl, .notBegun hbegin⟩
  | none =>
    -- either every statement is accepted, and the commit decides, or one is refused and ends it
    rcases accepts_or_refuses x.replies ss.length with haccepts | ⟨i, e, hi, haccepts, hfail⟩
    · have done : Session.executeAll ss (x.record beginning)
          = (.ok (), (x.record beginning).after ss) := Session.executeAll_accepted ss haccepts
      cases hcommit : x.commitFailure with
      | some e =>
        refine ⟨_, _, _, Session.transaction_not_committed hbegin done hcommit, ?_,
          .notCommitted hbegin haccepts hcommit⟩
        simp [Session.record, Session.after]
      | none =>
        refine ⟨_, _, _, Session.transaction_committed hbegin done hcommit, ?_,
          .committed hbegin haccepts hcommit⟩
        simp [Session.record, Session.after]
    · have failed : Session.executeAll ss (x.record beginning)
          = (.error (.server e), (x.record beginning).after (ss.take (i + 1))) :=
        Session.executeAll_refused hi haccepts hfail
      refine ⟨_, _, _, Session.transaction_stopped hbegin failed, ?_,
        .stopped hbegin hi haccepts hfail⟩
      simp [Session.record, Session.after]

/-- What a transaction sends and when it succeeds, in terms of what the server answers. These are
the promises of the store, in the form in which a caller needs them. -/
structure Transacted (x : Session) (ss : List Statement) (r : Except StoreError Unit)
    (trace : List Statement) : Prop where
  /-- it ends in one of the four ways -/
  ends : ∃ r', r = r'.mapError StoreError.ofLink ∧ Transaction x ss r' trace
  /-- it is to be committed only if it has begun and no statement has failed, and then it is -/
  commits : committing ∈ trace ↔ x.beginFailure = none ∧ Accepts x.replies ss.length
  succeeds : r = .ok () ↔
    x.beginFailure = none ∧ Accepts x.replies ss.length ∧ x.commitFailure = none
  whole : r = .ok () → trace = beginning :: ss ++ [committing]
  /-- after a statement that fails none of the others is sent -/
  stops : ∀ i e, x.beginFailure = none → i < ss.length → x.replies[i]? = some (.failure e) →
    ∃ j ≤ i, trace = beginning :: ss.take (j + 1) ++ [rollingBack]
  /-- it is given up if it has begun and does not succeed -/
  rollsBack : trace.getLast? = some rollingBack ↔ x.beginFailure = none ∧ r ≠ .ok ()

/-- The promises hold in each of the four ways. None of the statements may itself be a commit, or
the trace would show one that the transaction has not made. -/
theorem Transaction.transacted {x : Session} {ss : List Statement} {r : Except LinkError Unit}
    {trace : List Statement} (hss : committing ∉ ss) (h : Transaction x ss r trace) :
    Transacted x ss (r.mapError .ofLink) trace := by
  have refused {n i : Nat} {e : ServerError} (hi : i < n)
      (hfail : x.replies[i]? = some (.failure e)) : ¬Accepts x.replies n :=
    fun haccepts => haccepts i hi e hfail
  -- one case for each way to end; most parts are then plain from the shape of the trace
  cases h with
  | notBegun begins =>
    refine ⟨⟨_, rfl, .notBegun begins⟩, ?_, ?_, ?_, ?_, ?_⟩
    · simp [begins, committing_ne_beginning]
    · simp [begins, Except.mapError]
    · simp [Except.mapError]
    · simp [begins]
    · simp [begins, beginning_ne_rollingBack]
  | @stopped i e begins hi accepts fails =>
    refine ⟨⟨_, rfl, .stopped begins hi accepts fails⟩, ?_, ?_, ?_, ?_, ?_⟩
    · have uncommitted : committing ∉ ss.take (i + 1) := fun hmem => hss (List.mem_of_mem_take hmem)
      simp [refused hi fails, uncommitted, committing_ne_beginning, committing_ne_rollingBack]
    · simp [refused hi fails, Except.mapError]
    · simp [Except.mapError]
    · intro j e' _ hj hfail
      refine ⟨i, ?_, rfl⟩
      by_contra hlt
      exact accepts j (Nat.lt_of_not_le hlt) e' hfail
    · simp only [List.getLast?_append]
      simp [begins, Except.mapError]
  | notCommitted begins accepts commits =>
    refine ⟨⟨_, rfl, .notCommitted begins accepts commits⟩, ?_, ?_, ?_, ?_, ?_⟩
    · simp [begins, accepts]
    · simp [commits, Except.mapError]
    · simp [Except.mapError]
    · exact fun i e _ hi hfail => absurd accepts (refused hi hfail)
    · simp only [List.getLast?_append]
      simp [begins, Except.mapError]
  | committed begins accepts commits =>
    refine ⟨⟨_, rfl, .committed begins accepts commits⟩, ?_, ?_, ?_, ?_, ?_⟩
    · simp [begins, accepts]
    · simp [begins, accepts, commits, Except.mapError]
    · exact fun _ => rfl
    · exact fun i e _ hi hfail => absurd accepts (refused hi hfail)
    · simp only [List.getLast?_append]
      simp [Except.mapError, committing_ne_rollingBack]

/-! ## The rows of documents -/

/-- A document has an id, or else there is a cause that says what is wrong with it. -/
theorem document_id_cases (d : Document) :
    (∃ id, d.id = .ok id) ∨ ∃ cause, d.id = .error (.unexpected cause) := by
  unfold Document.id
  split
  · exact .inr ⟨_, rfl⟩
  · split
    · exact .inl ⟨_, rfl⟩
    · exact .inr ⟨_, rfl⟩

/-- Each document with an id is a row. The text of the row is that of the whole document, the id
included. -/
theorem rowsOf_of_ids {docs : List Document} (h : ∀ d ∈ docs, ∃ id, d.id = .ok id) :
    ∃ rows, rowsOf docs = .ok rows ∧
      List.Forall₂ (fun d r => d.id = .ok r.id ∧ r.text = d.text) docs rows := by
  induction docs with
  | nil => exact ⟨[], rfl, .nil⟩
  | cons d docs ih =>
    obtain ⟨id, hid⟩ := h d (List.mem_cons_self ..)
    obtain ⟨rows, hrows, hall⟩ := ih fun d hd => h d (List.mem_cons_of_mem _ hd)
    refine ⟨⟨id, d.text⟩ :: rows, ?_, .cons ⟨hid, rfl⟩ hall⟩
    rw [rowsOf, hid, hrows]
    rfl

/-- One document without an id is enough for there to be no rows at all. The first such document is
the one that is blamed. -/
theorem rowsOf_malformed {docs : List Document} (h : ∃ d ∈ docs, ∀ id, d.id ≠ .ok id) :
    ∃ cause, rowsOf docs = .error (.unexpected cause) := by
  induction docs with
  | nil =>
    obtain ⟨d, hd, -⟩ := h
    cases hd
  | cons d docs ih =>
    rcases document_id_cases d with ⟨id, hid⟩ | ⟨cause, hid⟩
    · have rest : ∃ d ∈ docs, ∀ id, d.id ≠ .ok id := by
        obtain ⟨d', hd', hbad⟩ := h
        rcases List.mem_cons.1 hd' with rfl | hd'
        · exact absurd hid (hbad id)
        · exact ⟨d', hd', hbad⟩
      obtain ⟨cause, hrest⟩ := ih rest
      refine ⟨cause, ?_⟩
      rw [rowsOf, hid, hrest]
      rfl
    · refine ⟨cause, ?_⟩
      rw [rowsOf, hid]
      rfl

/-! ## The parameters of a statement -/

/-- Separators bind no values, so a list binds what its items bind, in order. -/
theorem params_joined (separator : String) (parts : List (List Piece)) :
    (joined separator parts).filterMap Piece.param?
      = parts.flatMap fun ps => ps.filterMap Piece.param? := by
  fun_induction joined separator parts with
  | case1 => rfl
  | case2 ps => simp
  | case3 ps rest _ ih =>
    rw [List.filterMap_append, List.filterMap_cons_none rfl, ih, List.flatMap_cons]

/-- What a statement binds for a row. -/
def Row.params (r : Row) : List Param := [.text r.id.toHex, .text r.text]

theorem insertRows_params (c : Collection) (rows : List Row) :
    (insertRows c rows).params = rows.flatMap Row.params := by
  change (joined ", " _).filterMap Piece.param? = _
  rw [params_joined, List.flatMap_map]
  rfl

/-- The statements of a batch together bind what its rows bind. No row is bound twice, and none is
left out. -/
theorem params_insertRows_all (c : Collection) (batches : List (List Row)) :
    (batches.map (insertRows c)).flatMap Statement.params = batches.flatten.flatMap Row.params := by
  induction batches with
  | nil => rfl
  | cons batch batches ih =>
    rw [List.map_cons, List.flatMap_cons, ih, insertRows_params, List.flatten_cons,
      List.flatMap_append]

/-! ## Storing documents -/

/-- The rows of some statements are documents in order, a thousand rows a statement but for the
last. The last one is never empty. -/
structure Batches (c : Collection) (docs : List Document) (batches : List (List Row)) :
    Prop where
  /-- the rows are the documents, one by one -/
  rows : List.Forall₂ (fun d r => d.id = .ok r.id ∧ r.text = d.text) docs batches.flatten
  /-- the parameters are the ids and texts of the rows -/
  params : (batches.map (insertRows c)).flatMap Statement.params
    = batches.flatten.flatMap Row.params
  full : ∀ batch ∈ batches.dropLast, batch.length = 1000
  last : ∃ batch, batches.getLast? = some batch ∧ 1 ≤ batch.length ∧ batch.length ≤ 1000

/-- Rows that are cut into parts of a thousand are such batches. -/
theorem batches_chunks {c : Collection} {docs : List Document} {rows : List Row}
    (hne : docs ≠ [])
    (h : List.Forall₂ (fun d r => d.id = .ok r.id ∧ r.text = d.text) docs rows) :
    Batches c docs (chunks insertBatch rows) where
  rows := by rwa [flatten_chunks (by decide)]
  params := params_insertRows_all c _
  full batch hb := length_of_mem_dropLast_chunks hb
  last := by
    have hrows : rows ≠ [] := by
      rintro rfl
      cases h
      exact hne rfl
    have some : chunks insertBatch rows ≠ [] := by
      simp [chunks_of_ne hrows, insertBatch]
    have hmem := List.getLast_mem some
    exact ⟨_, List.getLast?_eq_some_getLast some,
      List.length_pos_iff.2 (ne_nil_of_mem_chunks hmem), length_le_of_mem_chunks hmem⟩

/-- On an open connection work is done as it is; only its errors are translated. -/
theorem connected_ready {α : Type} (work : Session.Work α) {x : Session} (h : x.link = .ready) :
    connected work x = ((work x).1.mapError .ofLink, (work x).2) := by
  rw [connected, Session.acquire, h]
  dsimp only
  rcases work x with ⟨r, x'⟩
  cases r <;> rfl

/-- There are two ways to be without a connection, and both are errors that leave the session as it
is. -/
theorem acquire_unready {x : Session} (h : x.link ≠ .ready) :
    ∃ e, Session.acquire x = (.error e, x) := by
  rw [Session.acquire]
  cases hlink : x.link with
  | ready => exact absurd hlink h
  | down e => exact ⟨_, rfl⟩
  | closed => exact ⟨_, rfl⟩

theorem connected_refused {α : Type} (work : Session.Work α) {x : Session} {e : LinkError}
    (h : Session.acquire x = (.error e, x)) : connected work x = (.error (.ofLink e), x) := by
  rw [connected, h]

section

variable (c : Collection) {docs : List Document} (x : Session)

/-- Documents without rows are refused before a connection is asked for. -/
theorem insert_of_malformed {e : StoreError} (hne : docs ≠ []) (h : rowsOf docs = .error e) :
    insert c docs x = (.error e, x) := by
  rw [insert, h]
  exact hne

/-- Documents with rows are stored by one transaction over all of them. -/
theorem insert_of_rows {rows : List Row} (hne : docs ≠ []) (h : rowsOf docs = .ok rows) :
    insert c docs x = connected (Session.transaction
      (Session.executeAll ((chunks insertBatch rows).map (insertRows c)))) x := by
  rw [insert, h]
  exact hne

end

/-- Without a connection documents are refused, be it for the connection or for one of them. -/
theorem insert_unready (c : Collection) {docs : List Document} {x : Session} (hne : docs ≠ [])
    (hready : x.link ≠ .ready) : ∃ e, insert c docs x = (.error e, x) := by
  rcases hrows : rowsOf docs with e | rows
  · exact ⟨e, insert_of_malformed c x hne hrows⟩
  · obtain ⟨e, he⟩ := acquire_unready hready
    rw [insert_of_rows c x hne hrows]
    exact ⟨_, connected_refused _ he⟩

/-- Documents that all have ids are stored by a transaction over their rows. This is the only case
in which anything is sent for a batch. -/
theorem insert_of_ids (c : Collection) {docs : List Document} {x : Session} (hne : docs ≠ [])
    (hids : ∀ d ∈ docs, ∃ id, d.id = .ok id) (hready : x.link = .ready) :
    ∃ rows r x' trace, List.Forall₂ (fun d r => d.id = .ok r.id ∧ r.text = d.text) docs rows ∧
      insert c docs x = (r.mapError .ofLink, x') ∧ x'.sent = x.sent ++ trace ∧
      Transaction x ((chunks insertBatch rows).map (insertRows c)) r trace := by
  obtain ⟨rows, hrows, hall⟩ := rowsOf_of_ids hids
  obtain ⟨r, x', trace, hrun, hsent, hends⟩ :=
    transaction_executeAll ((chunks insertBatch rows).map (insertRows c)) x
  refine ⟨rows, r, x', trace, hall, ?_, hsent, hends⟩
  rw [insert_of_rows c x hne hrows, connected_ready _ hready, hrun]

/-- What storing documents does to a session, and its answer. The four parts tell apart the calls
that send something from the three kinds of call that do not. -/
structure BulkInsert (c : Collection) (docs : List Document) (x : Session)
    (r : Except StoreError Unit) (x' : Session) : Prop where
  malformed : (∃ d ∈ docs, ∀ id, d.id ≠ .ok id) →
    (∃ cause, r = .error (.unexpected cause)) ∧ x' = x
  empty : docs = [] → r = .ok () ∧ x' = x
  /-- without a connection nothing is sent -/
  unreached : docs ≠ [] → x.link ≠ .ready → (∃ e, r = .error e) ∧ x' = x
  transacted : docs ≠ [] → (∀ d ∈ docs, ∃ id, d.id = .ok id) → x.link = .ready →
    ∃ batches trace, Batches c docs batches ∧ x'.sent = x.sent ++ trace ∧
      Transacted x (batches.map (insertRows c)) r trace

/-- **One transaction**: documents are stored in one transaction that carries each of them once and
in order, whatever the server answers. It is committed if every statement is accepted, and given up
at the first that is not; documents without ids are refused before anything is sent. -/
theorem bulk_insert (c : Collection) (docs : List Document) (x : Session) :
    BulkInsert c docs x (answer (.insert c docs) x).1 (answer (.insert c docs) x).2 := by
  change BulkInsert c docs x (insert c docs x).1 (insert c docs x).2
  -- only the last part is about a transaction; in the others the session is as it was
  refine ⟨fun hbad => ?malformed, ?empty, fun hne hready => ?unreached,
    fun hne hids hready => ?transacted⟩
  case empty =>
    rintro rfl
    exact ⟨rfl, rfl⟩
  case malformed =>
    have hne : docs ≠ [] := by
      rintro rfl
      obtain ⟨d, hd, -⟩ := hbad
      cases hd
    obtain ⟨cause, hrows⟩ := rowsOf_malformed hbad
    rw [insert_of_malformed c x hne hrows]
    exact ⟨⟨cause, rfl⟩, rfl⟩
  case unreached =>
    obtain ⟨e, he⟩ := insert_unready c hne hready
    rw [he]
    exact ⟨⟨e, rfl⟩, rfl⟩
  case transacted =>
    obtain ⟨rows, r, x', trace, hall, hrun, hsent, hends⟩ := insert_of_ids c hne hids hready
    have inserts : committing ∉ (chunks insertBatch rows).map (insertRows c) := by
      intro hmem
      obtain ⟨batch, -, he⟩ := List.mem_map.1 hmem
      exact (ordinary_insertRows c batch).2.1 he
    rw [hrun]
    exact ⟨_, trace, batches_chunks hne hall, hsent, hends.transacted inserts⟩

/-- A reading whose row the server refuses: the transaction is given up and no commit is sent. -/
theorem bulk_insert_of_refused_reading :
    let reading : Reading := .new "temperature" "21"
    let refusing : Session :=
      { Session.start .ready with replies := [.failure ⟨1062, "23000", "taken"⟩] }
    let sent := (answer (.insert .readings [reading.toDocument]) refusing).2.sent
    committing ∉ sent ∧ sent.getLast? = some rollingBack := by
  intro reading refusing sent
  have hids : ∀ d ∈ [reading.toDocument], ∃ id, d.id = .ok id := by
    intro d hd
    obtain rfl := List.mem_singleton.1 hd
    exact ⟨_, Entity.id_toDocument reading⟩
  obtain ⟨batches, trace, batched, hsent, done⟩ :=
    (bulk_insert .readings [reading.toDocument] refusing).transacted (List.cons_ne_nil _ _) hids rfl
  have refused : ¬Accepts refusing.replies (batches.map (insertRows .readings)).length := by
    obtain ⟨batch, hlast, -⟩ := batched.last
    have some : 0 < batches.length := List.length_pos_of_mem (List.mem_of_getLast? hlast)
    exact fun haccepts => haccepts 0 (by rwa [List.length_map]) _ rfl
  have hsent : sent = trace := hsent
  rw [hsent]
  refine ⟨fun hmem => refused (done.commits.1 hmem).2, done.rollsBack.2 ⟨rfl, fun hok => ?_⟩⟩
  exact refused (done.succeeds.1 hok).2.1

end Telemetry.Sql
