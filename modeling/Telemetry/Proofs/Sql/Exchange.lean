import Telemetry.Proofs.Calls
import Telemetry.Proofs.Sql.Insertion

/-!
# What a server is asked and what it answers

The session keeps the statements that have been sent. An exchange is one of them together with the
call it has been sent for and the answer of the server, and the log of an action lists its exchanges
in order. A server may answer each call as it likes: its answers are a function of the session, so
of all that has been sent before.

* `answer_written`, `answer_unready` — a call of one statement sends it and reads the reply, or
  fails without a connection.
* `insert_cases` — documents are stored by a transaction, or nothing is sent for them.
* `log_bind`, `log_report` — the log of actions in a row, and of a result reported in another way.
* `sent_log` — the log of an action lists all that it sends.
-/

namespace Telemetry.Sql

/-! ## Reading replies -/

/-- The number of rows that a reply says have changed. One that says nothing about that reports no
change, so a call on one row takes it for a row that is missing. -/
def changedIn : Option Reply → Except StoreError UInt64
  | some (.failure e) => .error (.ofLink (.server e))
  | some (.affected n) => .ok n
  | _ => .ok 0

/-- The documents that a reply brings, which is an error as soon as one of its rows holds none. A
reply without rows brings no documents. -/
def foundIn : Option Reply → Except StoreError (List Document)
  | some (.failure e) => .error (.ofLink (.server e))
  | some (.rows cells) => cellDocuments cells
  | _ => .ok []

/-- The number that a reply brings, which is in the first of its rows. Without a row there is no
number: a reply of another kind does not count as zero. -/
def countedIn : Option Reply → Except StoreError UInt64
  | some (.failure e) => .error (.ofLink (.server e))
  | some (.rows (cell :: _)) => ((Session.cellCount cell).map Int64.toUInt64).mapError .ofLink
  | _ => .error .notFound

/-- A number is taken only from a row that holds one. Whatever is decided by a count is therefore
decided by a number that the server has sent. -/
theorem countedIn_eq_ok_iff {reply : Option Reply} {n : UInt64} :
    countedIn reply = .ok n ↔
      ∃ k cells, reply = some (.rows (.integer k :: cells)) ∧ k.toUInt64 = n := by
  constructor
  · intro h
    rcases reply with _ | _ | _ | _
    · cases h
    · cases h
    · next cells =>
      rcases cells with _ | ⟨_ | k | _ | _, cells⟩
      · cases h
      · cases h
      · exact ⟨k, cells, rfl, Except.ok.inj h⟩
      · cases h
      · cases h
    · cases h
  · rintro ⟨k, cells, rfl, rfl⟩
    rfl

/-- A text is no number, even if it reads like one. -/
example :
    countedIn (some (.rows [.text "0"])) = .error (.unexpected (.link (.columnDecode "\"count\""
      ("mismatched types; Rust type `i64` (as SQL type `BIGINT`) is not compatible with " ++
        "SQL type `TEXT`")))) := by
  rfl

/-- A count of zero is a zero that the server has sent. -/
theorem zero_of_countedIn {reply : Option Reply} (h : countedIn reply = .ok 0) :
    ∃ cells, reply = some (.rows (.integer 0 :: cells)) := by
  obtain ⟨⟨k⟩, cells, rfl, hk⟩ := countedIn_eq_ok_iff.1 h
  cases hk
  exact ⟨cells, rfl⟩

/-- What a call on one row makes of the number of rows that have changed. The id is a key, so more
than one row cannot have changed. -/
def oneRow (n : UInt64) : Except StoreError Unit := if n = 0 then .error .notFound else .ok ()

/-- The statement that a call takes, of those that take one. It depends on the call alone: neither
the session nor the server has a say in it. -/
def statementOf : Call → Option (Except StoreError Statement)
  | .ping => some (.ok (.plain "SELECT 1"))
  | .find c f limit => some (select c f limit)
  | .count c f => some (selectCount c f)
  | .update c id u => some (updateRow c id u)
  | .delete c id => some (.ok (deleteRow c id))
  | .deleteAll c f => some (deleteWhere c f)
  | .insert .. | .close => none

/-- What a call that takes one statement makes of the reply to it. The session is left out, so this
is all that the answer depends on. -/
def read : (c : Call) → Option Reply → Except StoreError c.Answer
  | .ping, reply => (changedIn reply).map fun _ => ()
  | .find .., reply => foundIn reply
  | .count .., reply => countedIn reply
  | .update .., reply | .delete .., reply => (changedIn reply).bind oneRow
  | .deleteAll .., reply => changedIn reply
  | .insert .., _ | .close, _ => .ok ()

section

variable {x : Session} (hready : x.link = .ready) (s : Statement)

include hready

/-- On an open connection a statement is executed as it is, and its reply is used up. The lemmas
that follow say the same for the other ways in which a call uses a statement. -/
theorem connected_execute :
    connected (Session.execute s) x = (changedIn x.replies.head?, x.after [s]) := by
  rw [connected_ready _ hready, Session.execute, Session.send_eq]
  rcases x.replies.head? with _ | _ | _ | _ <;> rfl

/-- A call on one row fails if no row has changed. -/
theorem changeRow_ready :
    changeRow s x = ((changedIn x.replies.head?).bind oneRow, x.after [s]) := by
  rw [changeRow, connected_execute hready]
  cases changedIn x.replies.head? <;> rfl

/-- A query brings the documents of its reply, once its condition can be written. -/
theorem find_ready {c : Collection} {f : Filter} {limit : Option UInt64}
    (hs : select c f limit = .ok s) :
    find c f limit x = (foundIn x.replies.head?, x.after [s]) := by
  rw [find, hs, withStatement, connected_ready _ hready, Session.query, Session.send_eq]
  rcases x.replies.head? with _ | _ | _ | _ <;> rfl

/-- A count is the number in its reply, once its condition can be written. The four kinds of replies
are gone through, since each is read in its own way. -/
theorem count_ready {c : Collection} {f : Filter} (hs : selectCount c f = .ok s) :
    count c f x = (countedIn x.replies.head?, x.after [s]) := by
  rw [count, hs, withStatement, connected_ready _ hready, Session.queryCount, Session.send_eq]
  rcases x.replies.head? with _ | _ | cells | _
  · rfl
  · rfl
  · rcases cells with _ | ⟨cell, _⟩
    · rfl
    · cases h : Session.cellCount cell <;> simp [countedIn, h, Except.map, Except.mapError]
  · rfl

end

/-- A call of one statement sends it and reads the reply. The proofs below use nothing else of such
calls. -/
theorem answer_written {c : Call} {s : Statement} {x : Session} (hready : x.link = .ready)
    (hs : statementOf c = some (.ok s)) : answer c x = (read c x.replies.head?, x.after [s]) := by
  cases c with
  | insert | close => cases hs
  | ping =>
    obtain rfl : Statement.plain "SELECT 1" = s := Except.ok.inj (Option.some.inj hs)
    rw [answer, connected_execute hready, read]
    cases changedIn x.replies.head? <;> rfl
  | find => exact find_ready hready s (Option.some.inj hs)
  | count => exact count_ready hready s (Option.some.inj hs)
  | update =>
    rw [answer, Option.some.inj hs]
    exact changeRow_ready hready s
  | delete =>
    obtain rfl := Except.ok.inj (Option.some.inj hs)
    exact changeRow_ready hready _
  | deleteAll =>
    rw [answer, Option.some.inj hs]
    exact connected_execute hready s

/-- A call that cannot be written as a statement sends nothing. It tells why also on a closed
connection, since that has not been asked for yet. -/
theorem answer_unwritten {c : Call} {e : StoreError} (x : Session)
    (hs : statementOf c = some (.error e)) : answer c x = (.error e, x) := by
  cases c with
  | insert | close => cases hs
  | ping | delete => cases Option.some.inj hs
  | find =>
    rw [answer, find, Option.some.inj hs]
    rfl
  | count =>
    rw [answer, count, Option.some.inj hs]
    rfl
  | update | deleteAll =>
    rw [answer, Option.some.inj hs]
    rfl

/-- Without a connection a statement is not sent, and the error is that of the connection. -/
theorem answer_refused {c : Call} {s : Statement} {x : Session} {e : LinkError}
    (hx : Session.acquire x = (.error e, x)) (hs : statementOf c = some (.ok s)) :
    answer c x = (.error (.ofLink e), x) := by
  cases c with
  | insert | close => cases hs
  | ping => rw [answer, connected_refused _ hx]
  | find => rw [answer, find, Option.some.inj hs, withStatement, connected_refused _ hx]
  | count => rw [answer, count, Option.some.inj hs, withStatement, connected_refused _ hx]
  | update => rw [answer, Option.some.inj hs, withStatement, changeRow, connected_refused _ hx]
  | delete => rw [answer, changeRow, connected_refused _ hx]
  | deleteAll => rw [answer, Option.some.inj hs, withStatement, connected_refused _ hx]

/-- Without a connection a call of one statement is answered by an error, and the session stays as
it is. -/
theorem answer_unready {c : Call} {x : Session} (hready : x.link ≠ .ready)
    (hs : (statementOf c).isSome) : ∃ e, answer c x = (.error e, x) := by
  obtain ⟨written, hwritten⟩ := Option.isSome_iff_exists.1 hs
  -- the statement comes first: a call that cannot be written does not ask for a connection
  rcases written with e | s
  · exact ⟨e, answer_unwritten x hwritten⟩
  · obtain ⟨e, he⟩ := acquire_unready hready
    exact ⟨_, answer_refused he hwritten⟩

/-! ## Statements and the answers to them -/

/-- What the server answers to the statements of a call. The beginning and the end of a transaction
have answers of their own, for they can only fail or not. -/
structure Script where
  /-- the answers to all but the beginning and the end of a transaction -/
  replies : List Reply
  /-- how the server refuses to begin a transaction, if it does -/
  beginFailure : Option ServerError
  /-- how the server refuses to commit one, if it does -/
  commitFailure : Option ServerError

/-- The answers that a session is about to get. -/
def Session.script (x : Session) : Script := ⟨x.replies, x.beginFailure, x.commitFailure⟩

/-- A statement that has been sent for a call, and the answer to it if the server gives one. The
call is kept, since the same statement may be good for one call and bad for another. -/
structure Exchange where
  call : Call
  statement : Statement
  reply : Option Reply

namespace Script

/-- The answer to the next statement. The script has answers of its own for the beginning and the
end of a transaction, and none for a rollback. -/
def reply? (script : Script) (s : Statement) : Option Reply :=
  if s = beginning then script.beginFailure.map .failure
  else if s = committing then script.commitFailure.map .failure
  else if s = rollingBack then none
  else script.replies.head?

/-- The answers to the statements after the next one. -/
def next (script : Script) (s : Statement) : Script :=
  if Ordinary s then { script with replies := script.replies.tail } else script

/-- Statements of a call, each with the answer to it. Ordinary statements take the replies of the
script one after the other. -/
def exchanges (c : Call) : Script → List Statement → List Exchange
  | _, [] => []
  | script, s :: ss => ⟨c, s, script.reply? s⟩ :: (script.next s).exchanges c ss

section

variable (c : Call) (script : Script)

/-- The statement that begins a transaction takes no reply of the script. -/
theorem exchanges_beginning (ss : List Statement) :
    script.exchanges c (beginning :: ss)
      = ⟨c, beginning, script.beginFailure.map .failure⟩ :: script.exchanges c ss := rfl

/-- The statement that commits a transaction takes no reply of the script either. -/
theorem exchanges_committing (ss : List Statement) :
    script.exchanges c (committing :: ss)
      = ⟨c, committing, script.commitFailure.map .failure⟩ :: script.exchanges c ss := rfl

/-- A rollback has no answer at all. -/
theorem exchanges_rollingBack (ss : List Statement) :
    script.exchanges c (rollingBack :: ss)
      = ⟨c, rollingBack, none⟩ :: script.exchanges c ss := rfl

/-- An ordinary statement takes the next reply, and leaves the others to the statements after it. -/
theorem exchanges_ordinary {s : Statement} (hs : Ordinary s) (ss : List Statement) :
    script.exchanges c (s :: ss)
      = ⟨c, s, script.replies.head?⟩ ::
        { script with replies := script.replies.tail }.exchanges c ss := by
  rw [exchanges, reply?, if_neg hs.1, if_neg hs.2.1, if_neg hs.2.2, next, if_pos hs]

theorem map_statement_exchanges (ss : List Statement) :
    (script.exchanges c ss).map Exchange.statement = ss := by
  induction ss generalizing script with
  | nil => rfl
  | cons s ss ih => exact congrArg (s :: ·) (ih _)

/-- A commit is answered as the script says, wherever it stands among the statements. -/
theorem committing_mem_exchanges {ss : List Statement} (h : committing ∈ ss) :
    ⟨c, committing, script.commitFailure.map .failure⟩ ∈ script.exchanges c ss := by
  induction ss generalizing script with
  | nil => cases h
  | cons s ss ih =>
    rcases List.mem_cons.1 h with rfl | h
    · exact List.mem_cons_self ..
    · have kept : (script.next s).commitFailure = script.commitFailure := by
        unfold next
        split <;> rfl
      exact List.mem_cons_of_mem _ (kept ▸ ih _ h)

/-- Every exchange of a call names the call. -/
theorem call_of_mem_exchanges {ss : List Statement} {y : Exchange}
    (hy : y ∈ script.exchanges c ss) : y.call = c := by
  induction ss generalizing script with
  | nil => cases hy
  | cons s ss ih =>
    rcases List.mem_cons.1 hy with rfl | hy
    · rfl
    · exact ih _ hy

end

end Script

/-! ## What is sent for a call -/

/-- A statement made of something that may be missing is ordinary if all such statements are. -/
theorem ordinary_of_map {α : Type} {r : Except StoreError α} {f : α → Statement} {s : Statement}
    (h : (r >>= fun a => pure (f a)) = .ok s) (hf : ∀ a, Ordinary (f a)) : Ordinary s := by
  cases r with
  | error e => cases h
  | ok a =>
    obtain rfl := Except.ok.inj h
    exact hf a

/-- The statement of a call is ordinary, so no call but the storing of documents begins or ends a
transaction. -/
theorem ordinary_statementOf {c : Call} {s : Statement} (hs : statementOf c = some (.ok s)) :
    Ordinary s := by
  cases c with
  | insert | close => cases hs
  | ping =>
    obtain rfl : Statement.plain "SELECT 1" = s := Except.ok.inj (Option.some.inj hs)
    decide
  | find | count =>
    exact ordinary_of_map (Option.some.inj hs) fun _ =>
      ordinary_ofPieces 'S' _ (by simp) (by decide)
  | update =>
    exact ordinary_of_map (Option.some.inj hs) fun _ =>
      ordinary_ofPieces 'U' _ (by simp) (by decide)
  | delete c id =>
    obtain rfl := Except.ok.inj (Option.some.inj hs)
    exact ordinary_ofPieces 'D' _ (by simp) (by decide)
  | deleteAll =>
    exact ordinary_of_map (Option.some.inj hs) fun _ =>
      ordinary_ofPieces 'D' _ (by simp) (by decide)

/-- The statements that the store sends for a call. They are read off the session after the call, so
none is forgotten. -/
def sentFor (c : Call) (x : Session) : List Statement := (answer c x).2.sent.drop x.sent.length

/-- What is sent for a call, each statement with the answer to it. It is read off the session after
the call, so it leaves nothing out. -/
def exchangesFor (c : Call) (x : Session) : List Exchange := x.script.exchanges c (sentFor c x)

section

variable {c : Call} {x : Session}

theorem exchangesFor_of_append {ss : List Statement} (h : (answer c x).2.sent = x.sent ++ ss) :
    exchangesFor c x = x.script.exchanges c ss := by
  rw [exchangesFor, sentFor, h, List.drop_left]

theorem exchangesFor_of_unsent (h : (answer c x).2.sent = x.sent) : exchangesFor c x = [] :=
  exchangesFor_of_append (h.trans (List.append_nil _).symm)

theorem exchangesFor_written {s : Statement} (hready : x.link = .ready)
    (hs : statementOf c = some (.ok s)) : exchangesFor c x = [⟨c, s, x.replies.head?⟩] := by
  have sent : (answer c x).2.sent = x.sent ++ [s] := by rw [answer_written hready hs]; rfl
  rw [exchangesFor_of_append sent, Script.exchanges_ordinary c _ (ordinary_statementOf hs)]
  rfl

/-- A call of one statement sends that, and is answered by what the reply says; or it sends nothing,
for want of a connection or of a statement, and is answered by an error. -/
theorem exchangesFor_cases (hs : (statementOf c).isSome) :
    (∃ s, statementOf c = some (.ok s) ∧ exchangesFor c x = [⟨c, s, x.replies.head?⟩] ∧
      answer c x = (read c x.replies.head?, x.after [s])) ∨
    ∃ e, (x.link = .ready → statementOf c = some (.error e)) ∧ exchangesFor c x = [] ∧
      answer c x = (.error e, x) := by
  by_cases hready : x.link = .ready
  · obtain ⟨e | s, hwritten⟩ := Option.isSome_iff_exists.1 hs
    · have unwritten := answer_unwritten x hwritten
      exact .inr ⟨e, fun _ => hwritten, exchangesFor_of_unsent (by rw [unwritten]), unwritten⟩
    · exact .inl ⟨s, hwritten, exchangesFor_written hready hwritten,
        answer_written hready hwritten⟩
  · obtain ⟨e, he⟩ := answer_unready hready hs
    exact .inr ⟨e, fun h => absurd h hready, exchangesFor_of_unsent (by rw [he]), he⟩

/-- A call of one statement that succeeds has been answered by a reply that says so. -/
theorem exchangesFor_of_ok (hs : (statementOf c).isSome) {a : c.Answer}
    (hok : (answer c x).1 = .ok a) :
    ∃ s, exchangesFor c x = [⟨c, s, x.replies.head?⟩] ∧ read c x.replies.head? = .ok a := by
  rcases exchangesFor_cases (x := x) hs with ⟨s, -, hlog, he⟩ | ⟨e, -, -, he⟩ <;> rw [he] at hok
  · exact ⟨s, hlog, hok⟩
  · cases hok

end

/-- Documents are stored by a transaction, or nothing is sent for them. In the second case the batch
is empty or the call fails. -/
theorem insert_cases (c : Collection) (docs : List Document) (x : Session) :
    (x.link = .ready ∧ ∃ rows r x' trace,
      answer (.insert c docs) x = (Except.mapError .ofLink r, x') ∧
      x'.sent = x.sent ++ trace ∧
      Transaction x ((chunks insertBatch rows).map (insertRows c)) r trace) ∨
    ∃ r, answer (.insert c docs) x = (r, x) ∧ (docs = [] ∨ ∃ e, r = .error e) := by
  -- the store looks at the documents in this order: none at all, no connection, one without an id
  by_cases hne : docs = []
  · subst hne
    exact .inr ⟨_, rfl, .inl rfl⟩
  by_cases hready : x.link = .ready
  · by_cases hids : ∀ d ∈ docs, ∃ id, d.id = .ok id
    · obtain ⟨rows, r, x', trace, -, hrun⟩ := insert_of_ids c hne hids hready
      exact .inl ⟨hready, rows, r, x', trace, hrun⟩
    · have malformed : ∃ d ∈ docs, ∀ id, d.id ≠ .ok id := by simpa using hids
      obtain ⟨cause, hrows⟩ := rowsOf_malformed malformed
      exact .inr ⟨_, insert_of_malformed c x hne hrows, .inr ⟨_, rfl⟩⟩
  · obtain ⟨e, he⟩ := insert_unready c hne hready
    exact .inr ⟨_, he, .inr ⟨e, rfl⟩⟩

/-- Without a connection nothing is sent, and there is none afterwards. So an action that has lost
the connection is silent from then on. -/
theorem unready_answer (c : Call) {x : Session} (hready : x.link ≠ .ready) :
    exchangesFor c x = [] ∧ (answer c x).2.link ≠ .ready := by
  have unchanged {r : Except StoreError c.Answer} (he : answer c x = (r, x)) :
      exchangesFor c x = [] ∧ (answer c x).2.link ≠ .ready :=
    ⟨exchangesFor_of_unsent (by rw [he]), by rwa [he]⟩
  have single (hs : (statementOf c).isSome) :
      exchangesFor c x = [] ∧ (answer c x).2.link ≠ .ready := by
    obtain ⟨e, he⟩ := answer_unready hready hs
    exact unchanged he
  cases c with
  | insert c docs =>
    rcases insert_cases c docs x with ⟨h, -⟩ | ⟨r, he, -⟩
    · exact absurd h hready
    · exact unchanged he
  | close => exact ⟨exchangesFor_of_unsent rfl, nofun⟩
  | _ => exact single rfl

/-- What has been sent stays sent: a call appends the statements of its exchanges to those before
it. -/
theorem sent_answer (c : Call) (x : Session) :
    (answer c x).2.sent = x.sent ++ (exchangesFor c x).map Exchange.statement := by
  -- it is enough that something is appended: the exchanges are cut off the session after the call
  have appended : ∃ ss, (answer c x).2.sent = x.sent ++ ss := by
    have single (hs : (statementOf c).isSome) : ∃ ss, (answer c x).2.sent = x.sent ++ ss := by
      rcases exchangesFor_cases (x := x) hs with ⟨s, -, -, he⟩ | ⟨e, -, -, he⟩
      · exact ⟨[s], by rw [he]; rfl⟩
      · exact ⟨[], by rw [he, List.append_nil]⟩
    cases c with
    | insert c docs =>
      rcases insert_cases c docs x with ⟨-, rows, r, x', trace, he, hsent, -⟩ | ⟨r, he, -⟩
      · exact ⟨trace, by rw [he, hsent]⟩
      · exact ⟨[], by rw [he, List.append_nil]⟩
    | close => exact ⟨[], (List.append_nil _).symm⟩
    | _ => exact single rfl
  obtain ⟨ss, hss⟩ := appended
  rw [exchangesFor_of_append hss, Script.map_statement_exchanges, hss]

/-! ## What is sent for an action

The server may answer each call in the light of all that has been sent before. Nothing else about it
is known, so what is proved of the log holds of every server. -/

/-- What the server answers to the statements of the next call, whatever has been sent before. It
may depend on all of that, so servers with a memory are among them. -/
abbrev Server := Session → Script

/-- A session that is about to get the answers of a script. -/
def Session.meet (x : Session) (script : Script) : Session :=
  { x with
    replies := script.replies
    beginFailure := script.beginFailure
    commitFailure := script.commitFailure }

/-- The SQL store in front of a server. Before each call the session is given the answers that the
server has for it. -/
def serving (server : Server) : Backend Session := ⟨fun c x => answer c (x.meet (server x))⟩

/-- A session that keeps the answers to come is one such server. -/
theorem serving_script : serving Session.script = backend := rfl

variable (server : Server) (around : Surroundings)

/-- What is sent for an action, each statement with the call it is sent for and the answer to it.
The server answers every call anew, from what the session has sent so far. -/
def log {α : Type} (a : Action α) (w : World Session) : List Exchange :=
  (a.calls (serving server) around w).flatMap fun p => exchangesFor p.1 (p.2.meet (server p.2))

section

variable {α β : Type} (w : World Session)

/-- A result sends nothing, and the three lemmas after this one go on in the same way along an
action. -/
@[simp] theorem log_pure (a : α) : log server around (pure a : Action α) w = [] := rfl

@[simp] theorem log_throw (e : StoreError) : log server around (throw e : Action α) w = [] := rfl

@[simp] theorem log_ofExcept (r : Except StoreError α) :
    log server around (Action.ofExcept r) w = [] := rfl

@[simp] theorem log_call (c : Call) :
    log server around (Action.call c) w = exchangesFor c (w.store.meet (server w.store)) :=
  List.append_nil _

/-- A call in front of a server is answered from the script that the server has for the session. -/
theorem exec_call (c : Call) :
    Program.exec (serving server) around (Action.call c) w
      = ((answer c (w.store.meet (server w.store))).1,
        { w with store := (answer c (w.store.meet (server w.store))).2 }) := rfl

/-- Of two actions in a row the second sends something only if the first has succeeded. The log of
an operation is put together with this, along its program. -/
theorem log_bind (a : Action α) (f : α → Action β) :
    log server around (a >>= f) w
      = log server around a w ++
        match Program.exec (serving server) around a w with
        | (.ok x, w') => log server around (f x) w'
        | (.error _, _) => [] := by
  rw [log, Action.calls_bind, List.flatMap_append]
  rcases Program.exec (serving server) around a w with ⟨r, w'⟩
  cases r <;> rfl

theorem exec_report (a : Action α) (g : Except StoreError α → Except StoreError β) :
    Program.exec (serving server) around (ExceptT.mk (a.run.bind fun r => .done (g r))) w
      = (g (Program.exec (serving server) around a w).1,
        (Program.exec (serving server) around a w).2) :=
  Program.run_bind ..

/-- Nothing more is sent for a result that is reported in another way. -/
theorem log_report (a : Action α) (g : Except StoreError α → Except StoreError β) :
    log server around (ExceptT.mk (a.run.bind fun r => .done (g r))) w = log server around a w := by
  have same : Action.calls (serving server) around w
      (ExceptT.mk (a.run.bind fun r => .done (g r))) = Action.calls (serving server) around w a :=
    (Program.calls_bind ..).trans (List.append_nil _)
  rw [log, same, log]

/-- Nothing is sent without a connection, however many calls are made: none of them brings it back.
-/
theorem log_unready (a : Action α) {w : World Session} (hready : w.store.link ≠ .ready) :
    log server around a w = [] := by
  unfold log Action.calls
  generalize a.run = p
  -- along the program: no call changes that there is no connection
  induction p generalizing w with
  | done r => rfl
  | call c next ih =>
    obtain ⟨unsent, unready⟩ := unready_answer c (x := w.store.meet (server w.store)) hready
    rw [Program.calls, List.flatMap_cons, unsent, List.nil_append]
    exact ih _ unready
  | now next ih => exact ih _ hready
  | freshId next ih => exact ih _ hready

/-- The log of an action lists what the action sends. So a statement about logs leaves out nothing
that reaches the server. -/
theorem sent_log (a : Action α) :
    (Program.exec (serving server) around a w).2.store.sent
      = w.store.sent ++ (log server around a w).map Exchange.statement := by
  unfold Program.exec log Action.calls
  generalize a.run = p
  -- along the program, with the session after each call as the next one finds it
  induction p generalizing w with
  | done r => exact (List.append_nil _).symm
  | call c next ih =>
    refine (ih _ _).trans ?_
    rw [Program.calls, List.flatMap_cons, List.map_append, ← List.append_assoc]
    exact congrArg (· ++ _) (sent_answer c (w.store.meet (server w.store)))
  | now next ih => exact ih _ _
  | freshId next ih => exact ih _ _

end

end Telemetry.Sql
