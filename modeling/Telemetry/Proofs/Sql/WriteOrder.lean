import Telemetry.Proofs.Sql.FailStop

/-!
# What a write waits for

Some operations write only after other statements have been answered: an event after its readings,
a change of a descriptor after a look-up, a deletion after a look-up and a count. The log of such an
operation is cut where the write is sent, and what has been answered by then stands before the cut.

* `log_bind_cut` — a cut in the second of two actions has the whole log of the first before it.
* `fail_stop` — operations stop at the first failure, and writes wait for what they depend on.
-/

namespace Telemetry.Sql

open Client Program

variable (server : Server) (around : Surroundings)

/-- A place behind the first of two lists, which the element is not in, lies in the second one. -/
theorem append_cut {γ : Type} {l rest before after : List γ} {y : γ}
    (h : l ++ rest = before ++ y :: after) (hy : y ∉ l) :
    ∃ between, before = l ++ between ∧ rest = between ++ y :: after := by
  rcases List.append_eq_append_iff.1 h with ⟨between, hbefore, hrest⟩ | ⟨more, hl, hrest⟩
  · exact ⟨between, hbefore, hrest⟩
  · rcases more with _ | ⟨z, more⟩
    · exact ⟨[], by simpa using hl.symm, hrest.symm⟩
    · obtain ⟨rfl, -⟩ := List.cons.inj hrest
      exact absurd (hl ▸ List.mem_append_right _ (List.mem_cons_self ..)) hy

section

variable {server around} {α β : Type}

/-- If an exchange does not belong to the first of two actions, that one has gone before it. All
that is proved of the order of writes comes down to this. -/
theorem log_bind_cut {a : Action α} {f : α → Action β} {w : World Session}
    {before after : List Exchange} {y : Exchange}
    (hlog : log server around (a >>= f) w = before ++ y :: after)
    (hy : y ∉ log server around a w) :
    ∃ x w' between, exec (serving server) around a w = (.ok x, w') ∧
      before = log server around a w ++ between ∧
      log server around (f x) w' = between ++ y :: after := by
  rw [log_bind] at hlog
  obtain ⟨between, hbefore, hrest⟩ := append_cut hlog hy
  rcases hrun : exec (serving server) around a w with ⟨e | x, w'⟩ <;> rw [hrun] at hrest
  · simp at hrest
  · exact ⟨x, w', between, rfl, hbefore, hrest⟩

/-- The exchanges of one call are all for that call. -/
theorem call_of_mem_log {c : Call} {w : World Session} {y : Exchange}
    (hy : y ∈ log server around (Action.call c) w) : y.call = c := by
  rw [log_call] at hy
  exact Script.call_of_mem_exchanges _ _ hy

variable {w : World Session} {before after : List Exchange} {y : Exchange}

/-- An action of one exchange has gone before every exchange for another call, and what follows goes
on with its answer. -/
theorem log_single_cut {a : Action α} {f : α → Action β} {z : Exchange}
    (hz : log server around a w = [z])
    (hlog : log server around (a >>= f) w = before ++ y :: after) (hy : y.call ≠ z.call) :
    ∃ x w' between, exec (serving server) around a w = (.ok x, w') ∧ before = z :: between ∧
      log server around (f x) w' = between ++ y :: after := by
  obtain ⟨x, w', between, hrun, rfl, hrest⟩ := log_bind_cut hlog fun hmem => by
    rw [hz, List.mem_singleton] at hmem
    exact hy (congrArg Exchange.call hmem)
  exact ⟨x, w', between, hrun, by rw [hz]; rfl, hrest⟩

/-- A call of one statement has been answered by a reply that says so before anything is sent for
another call. -/
theorem log_call_cut {c : Call} (hs : (statementOf c).isSome) {f : c.Answer → Action β}
    (hlog : log server around (Action.call c >>= f) w = before ++ y :: after) (hy : y.call ≠ c) :
    ∃ x w' s reply between, read c reply = .ok x ∧ before = ⟨c, s, reply⟩ :: between ∧
      log server around (f x) w' = between ++ y :: after := by
  obtain ⟨x, w', between, hrun, rfl, hrest⟩ :=
    log_bind_cut hlog fun hmem => hy (call_of_mem_log hmem)
  rw [exec_call] at hrun
  obtain ⟨s, hone, hread⟩ := exchangesFor_of_ok hs (congrArg Prod.fst hrun)
  rw [log_call, hone]
  exact ⟨x, w', s, _, between, hread, rfl, hrest⟩

end

/-! ## Events and their readings -/

/-- An answer that succeeds does not come from a refusal. So what an operation goes on after has
been accepted by the server. -/
theorem not_refused_of_read {c : Call} {s : Statement} {reply : Option Reply} {a : c.Answer}
    (hs : (statementOf c).isSome) (h : read c reply = .ok a) :
    Exchange.refused ⟨c, s, reply⟩ = false := by
  -- only one kind of reply is a refusal, and it is read as an error
  rcases reply with _ | e | _ | _
  · rfl
  · rw [read_refused hs] at h
    cases h
  · rfl
  · rfl

/-- Documents have been stored only by a transaction that is committed. The commit is among the
exchanges, and it has not been refused. -/
theorem insert_committed {c : Collection} {docs : List Document} {x : Session} (hne : docs ≠ [])
    (hok : (answer (.insert c docs) x).1 = .ok ()) :
    ∃ z ∈ exchangesFor (.insert c docs) x, z.statement = committing ∧ z.refused = false := by
  rcases insert_cases c docs x with ⟨-, rows, r, x', trace, he, hsent, hends⟩ | ⟨r, he, hr⟩
  · rw [exchangesFor_of_append ((congrArg (fun p => p.2.sent) he).trans hsent)]
    rw [he] at hok
    cases hends with
    | notBegun | stopped | notCommitted => cases hok
    | committed begins accepts commits =>
      refine ⟨_, Script.committing_mem_exchanges _ x.script (by simp), rfl, ?_⟩
      rw [Exchange.refused, show x.script.commitFailure = none from commits]
      rfl
  · rw [he] at hok
    rcases hr with rfl | ⟨e, rfl⟩
    · exact absurd rfl hne
    · cases hok

section

variable {server around} {w : World Session} {before after : List Exchange} {y : Exchange}

/-- For the record of an event nothing is sent before its readings have been committed. The log is
cut at the first exchange that is not for the readings. -/
theorem record_after_readings {e : Event} (hne : e.readings ≠ [])
    (hlog : log server around (Operation.addEvent e).action w = before ++ y :: after)
    (hy : ∀ docs, y.call ≠ .insert .readings docs) :
    ∃ z ∈ before, z.call
        = .insert .readings ((stamped around w.taken e).readings.map Reading.toDocument) ∧
      z.statement = committing ∧ z.refused = false := by
  rw [log_addEvent] at hlog
  have hne : (stamped around w.taken e).readings ≠ [] := by simpa [stamped] using hne
  generalize stamped around w.taken e = stamped at hlog hne ⊢
  unfold storeEvent at hlog
  rcases hreadings : stamped.readings with _ | ⟨r, rs⟩
  · exact absurd hreadings hne
  rw [hreadings] at hlog
  change log server around
    (Action.call (.insert .readings ((r :: rs).map Reading.toDocument)) >>= _) _ = _ at hlog
  -- the exchange is not for the readings, so it comes after all of theirs
  obtain ⟨⟨⟩, w', between, hrun, rfl, -⟩ :=
    log_bind_cut hlog fun hmem => hy _ (call_of_mem_log hmem)
  rw [exec_call] at hrun
  obtain ⟨z, hz, hcommit, accepted⟩ := insert_committed (List.cons_ne_nil _ _)
    (congrArg Prod.fst hrun)
  rw [log_call]
  exact ⟨z, List.mem_append_left _ hz, Script.call_of_mem_exchanges _ _ hz, hcommit, accepted⟩

/-- Events are deleted only after readings have been, and only if that was not refused. -/
theorem events_after_readings
    (hlog : log server around Operation.scrubAllEvents.action w = before ++ y :: after)
    (hy : ∀ f, y.call ≠ .deleteAll .readings f) :
    ∃ z ∈ before, z.call = .deleteAll .readings .all ∧ z.refused = false := by
  change log server around (Action.call (.deleteAll .readings .all) >>= _) w = _ at hlog
  obtain ⟨n, w', s, reply, between, hread, rfl, -⟩ := log_call_cut rfl hlog (hy .all)
  exact ⟨_, List.mem_cons_self .., rfl, not_refused_of_read rfl hread⟩

end

/-! ## Look-ups of descriptors -/

/-- The first of some documents as a descriptor. It is asked for with a limit of one, so there
should be no other. -/
def firstOf : List Document → Except StoreError ValueDescriptor
  | d :: _ => d.decode ValueDescriptor.decoder
  | [] => .error .notFound

/-- The descriptor that a reply brings. A reply without rows brings none, which is not an error of
the server. -/
def firstIn (reply : Option Reply) : Except StoreError ValueDescriptor :=
  (foundIn reply).bind firstOf

/-- Only a reply without rows says that there is no descriptor. A refusal and a row that cannot be
read have errors of their own. -/
theorem empty_of_notFound {y : Exchange} (h : firstIn y.reply = .error .notFound) :
    y.refused = false ∧ y.cells = [] := by
  obtain ⟨c, s, reply⟩ := y
  rcases reply with _ | e | cells | n
  · exact ⟨rfl, rfl⟩
  · exact absurd (Except.error.inj h) (ofLink_server_ne_notFound e)
  · rcases cells with _ | ⟨cell, cells⟩
    · exact ⟨rfl, rfl⟩
    · change (cellDocuments (cell :: cells)).bind firstOf = _ at h
      rcases cellDocuments_cases (cell :: cells) with ⟨docs, hdocs, hall⟩ | ⟨e, lost, he⟩
      · rw [hdocs] at h
        rcases docs with _ | ⟨d, docs⟩
        · cases hall
        · rcases decode_cases ValueDescriptor.decoder d with ⟨a, ha⟩ | ⟨e, lost, he⟩
          · exact absurd (ha.symm.trans h) (by simp)
          · exact absurd (Except.error.inj (he.symm.trans h)) lost
      · rw [he] at h
        exact absurd (Except.error.inj h) lost
  · exact ⟨rfl, rfl⟩

/-- The look-up of a descriptor is one query and what is made of its documents. -/
theorem getValueDescriptor_eq (f : Filter) :
    getValueDescriptor f = Action.call (.find .valueDescriptors f (some 1)) >>= fun docs =>
      Action.ofExcept (firstOf docs) := by
  rw [getValueDescriptor, findOne_bind]
  refine congrArg (Action.call (.find .valueDescriptors f (some 1)) >>= ·) (funext fun docs => ?_)
  cases docs <;> rfl

/-- A descriptor is looked up by one query, and the reply says what there is. -/
theorem getValueDescriptor_ready {f : Filter} {w : World Session} (hready : w.store.link = .ready)
    {s : Statement} (hs : select .valueDescriptors f (some 1) = .ok s) :
    ∃ y w', log server around (getValueDescriptor f) w = [y] ∧
      y.call = .find .valueDescriptors f (some 1) ∧ w'.store.link = .ready ∧
      exec (serving server) around (getValueDescriptor f) w = (firstIn y.reply, w') := by
  rw [getValueDescriptor_eq, log_bind, exec_bind, log_call, exec_call]
  have hready : (w.store.meet (server w.store)).link = .ready := hready
  generalize w.store.meet (server w.store) = x at hready ⊢
  have hwritten : statementOf (.find .valueDescriptors f (some 1)) = some (.ok s) :=
    congrArg some hs
  rw [exchangesFor_written hready hwritten, answer_written hready hwritten]
  refine ⟨⟨.find .valueDescriptors f (some 1), s, x.replies.head?⟩,
    { w with store := x.after [s] }, ?_, rfl, hready, ?_⟩
  · dsimp only [read]
    cases foundIn x.replies.head? <;> rfl
  · change _ = ((foundIn x.replies.head?).bind firstOf, _)
    dsimp only [read]
    cases foundIn x.replies.head? <;> rfl

/-- The look-up of a name sends one query, and only a reply without rows says that nobody has the
name. -/
theorem ifFound_ready (name : String) {w : World Session} (hready : w.store.link = .ready) :
    ∃ y w', log server around (ifFound (valueDescriptorByName name)) w = [y] ∧
      y.call = .find .valueDescriptors (.eq "name" (.string name)) (some 1) ∧
      w'.store.link = .ready ∧
      exec (serving server) around (ifFound (valueDescriptorByName name)) w
        = (orNone (firstIn y.reply), w') := by
  obtain ⟨y, w', hlog, hy, hlink, hrun⟩ := getValueDescriptor_ready server around
    (f := .eq "name" (.string name)) hready rfl
  rw [ifFound_eq, log_report, exec_report]
  exact ⟨y, w', hlog, hy, hlink, by rw [valueDescriptorByName, hrun]⟩

section

variable {server around} {w : World Session} {before after : List Exchange} {y : Exchange}

/-- What is in a log has been sent over a connection, so there was one at the beginning. -/
theorem ready_of_log {α : Type} {a : Action α}
    (hlog : log server around a w = before ++ y :: after) : w.store.link = .ready := by
  by_contra hready
  rw [log_unready server around a hready] at hlog
  simp at hlog

/-- A descriptor is changed only after a look-up of its name that has found no other one. The
look-up is part of the same operation; what other clients do in between is another matter. -/
theorem change_after_lookup {d : ValueDescriptor} {c : Collection} {id : ObjectId} {u : Update}
    (hlog : log server around (Operation.updateValueDescriptor d).action w = before ++ y :: after)
    (hy : y.call = .update c id u) :
    ∃ z ∈ before, z.call = .find .valueDescriptors (.eq "name" (.string d.name)) (some 1) ∧
      (firstIn z.reply = .error .notFound ∨
        ∃ existing, firstIn z.reply = .ok existing ∧ existing.id = d.id) := by
  obtain ⟨z, w', hz, hcall, -, hrun⟩ := ifFound_ready server around d.name (ready_of_log hlog)
  change log server around (ifFound (valueDescriptorByName d.name) >>= _) w = _ at hlog
  have other : y.call ≠ z.call := by
    rw [hy, hcall]
    nofun
  obtain ⟨x, w'', between, hran, rfl, hrest⟩ := log_single_cut hz hlog other
  refine ⟨z, List.mem_cons_self .., hcall, ?_⟩
  obtain ⟨hx, -⟩ := Prod.mk.inj (hrun.symm.trans hran)
  -- any other answer of the look-up ends the operation before the update
  cases hfirst : firstIn z.reply with
  | error e =>
    rw [hfirst] at hx
    cases e with
    | notFound => exact .inl rfl
    | _ => cases hx
  | ok existing =>
    rw [hfirst] at hx
    obtain rfl := Except.ok.inj hx
    refine .inr ⟨existing, rfl, ?_⟩
    by_contra hid
    dsimp only at hrest
    rw [if_pos hid, log_bind, exec_throw] at hrest
    simp at hrest

/-- A deletion is sent under the id that the text is read as. -/
theorem id_of_deletion {c : Collection} {text : String} {k : ObjectId} (hk : parseId text = .ok k)
    (hlog : log server around (Action.deleteById c text) w = before ++ y :: after) :
    y.call = .delete c k := by
  rw [Action.deleteById, hk] at hlog
  change log server around (Action.call (.delete c k)) w = _ at hlog
  exact call_of_mem_log (hlog ▸ List.mem_append_right _ (List.mem_cons_self ..))

/-- A descriptor is deleted only after it has been found and the server has counted no reading with
its name. A count that fails or cannot be read is none. -/
theorem deletion_after_count {text : String} {c : Collection} {id : ObjectId}
    (hlog : log server around (Operation.deleteValueDescriptorById text).action w
      = before ++ y :: after)
    (hy : y.call = .delete c id) :
    ∃ d, (∃ z ∈ before, z.call = .find .valueDescriptors (byId id) (some 1) ∧
        firstIn z.reply = .ok d) ∧
      ∃ z ∈ before, z.call = .count .readings (.eq "name" (.string d.name)) ∧
        ∃ cells, z.reply = some (.rows (.integer 0 :: cells)) := by
  have hready := ready_of_log hlog
  -- the id is read, the descriptor looked up, and its readings counted
  rcases hk : parseId text with e | k
  · change log server around (Action.ofExcept (parseId text) >>= _) w = _ at hlog
    rw [hk] at hlog
    change [] = _ at hlog
    simp at hlog
  change log server around (Action.ofExcept (parseId text) >>= fun k =>
    getValueDescriptor (byId k) >>= _) w = _ at hlog
  rw [hk] at hlog
  change log server around (getValueDescriptor (byId k) >>= _) w = _ at hlog
  obtain ⟨z, w', hz, hcall, -, hrun⟩ := getValueDescriptor_ready server around
    (f := byId k) hready rfl
  have other : y.call ≠ z.call := by
    rw [hy, hcall]
    nofun
  obtain ⟨d, w'', between, hran, rfl, hcounting⟩ := log_single_cut hz hlog other
  obtain ⟨hfound, -⟩ := Prod.mk.inj (hrun.symm.trans hran)
  change log server around (Action.call (.count .readings (.eq "name" (.string d.name))) >>= _) _
    = _ at hcounting
  obtain ⟨n, w₃, s, reply, between, hread, rfl, hdeleting⟩ :=
    log_call_cut rfl hcounting (by rw [hy]; nofun)
  dsimp only at hdeleting
  have unused : ¬0 < n := by
    intro hpos
    rw [if_pos hpos, log_bind, exec_throw] at hdeleting
    simp at hdeleting
  rw [if_neg unused] at hdeleting
  obtain rfl : n = 0 := by simpa using unused
  have hid := id_of_deletion hk hdeleting
  rw [hy] at hid
  obtain ⟨-, rfl⟩ : c = .valueDescriptors ∧ id = k := by simpa using hid
  exact ⟨d, ⟨z, List.mem_cons_self .., hcall, hfound⟩, _,
    List.mem_cons_of_mem _ (List.mem_cons_self ..), rfl, zero_of_countedIn hread⟩

/-! ## Names without a descriptor -/

/-- Names are looked up one by one, and the descriptors found are those that are listed. A name is
passed over only if the server has no row for it. -/
inductive LookedUp : List String → List Exchange → List ValueDescriptor → Prop
  | nil : LookedUp [] [] []
  | found {name : String} {names : List String} {y : Exchange} {log : List Exchange}
    {d : ValueDescriptor} {ds : List ValueDescriptor}
    (asks : y.call = .find .valueDescriptors (.eq "name" (.string name)) (some 1))
    (brings : firstIn y.reply = .ok d) (rest : LookedUp names log ds) :
    LookedUp (name :: names) (y :: log) (d :: ds)
  | missing {name : String} {names : List String} {y : Exchange} {log : List Exchange}
    {ds : List ValueDescriptor}
    (asks : y.call = .find .valueDescriptors (.eq "name" (.string name)) (some 1))
    (accepted : y.refused = false) (empty : y.cells = []) (rest : LookedUp names log ds) :
    LookedUp (name :: names) (y :: log) ds

/-- If the look-up of some names succeeds, each of them has been found or the server has had no row
for it. -/
theorem lookedUp_of_ok {names : List String} {ds : List ValueDescriptor}
    (hready : w.store.link = .ready)
    (hok : (exec (serving server) around (valueDescriptorsByName names) w).1 = .ok ds) :
    LookedUp names (log server around (valueDescriptorsByName names) w) ds := by
  induction names generalizing w ds with
  | nil =>
    obtain rfl := Except.ok.inj hok
    exact .nil
  | cons name names ih =>
    obtain ⟨z, w', hz, hcall, hready, hrun⟩ := ifFound_ready server around name hready
    -- whether the first name has been found makes no difference for the others
    have rest (found : Option ValueDescriptor)
        (hok : (exec (serving server) around
          (valueDescriptorsByName names >>= fun rest => pure (found.toList ++ rest)) w').1
            = .ok ds) :
        ∃ more, ds = found.toList ++ more ∧ LookedUp names (log server around
          (valueDescriptorsByName names >>= fun rest => pure (found.toList ++ rest)) w') more := by
      rw [exec_bind] at hok
      rw [log_bind]
      rcases hmore : exec (serving server) around (valueDescriptorsByName names) w' with
        ⟨e | more, w''⟩ <;> rw [hmore] at hok
      · cases hok
      · refine ⟨more, (Except.ok.inj hok).symm, ?_⟩
        dsimp only
        rw [log_pure, List.append_nil]
        exact ih hready (congrArg Prod.fst hmore)
    rw [valueDescriptorsByName, exec_bind, hrun] at hok
    rw [valueDescriptorsByName, log_bind, hz, hrun]
    cases hfirst : firstIn z.reply with
    | error e =>
      rw [hfirst] at hok
      cases e with
      | notFound =>
        obtain ⟨accepted, empty⟩ := empty_of_notFound hfirst
        obtain ⟨more, rfl, hrest⟩ := rest none hok
        exact .missing hcall accepted empty hrest
      | _ => cases hok
    | ok d =>
      rw [hfirst] at hok
      obtain ⟨more, rfl, hrest⟩ := rest (some d) hok
      exact .found hcall hfirst hrest

end

/-! ## Operations in front of a server -/

/-- How the operations of the client behave in front of a server that may refuse any statement. The
first fields are about every operation, and the others about those that write in several steps. -/
structure FailStopClient : Prop where
  /-- the log of an operation lists all that it sends -/
  sends : ∀ (op : Operation) w, (exec (serving server) around op.action w).2.store.sent
    = w.store.sent ++ (log server around op.action w).map Exchange.statement
  /-- after a bad exchange there is an error, and nothing is sent but the rollback of the
  transaction that is open -/
  stops : ∀ (op : Operation) w before y after, (∀ z ∈ log server around op.action w, z.Fair) →
    log server around op.action w = before ++ y :: after → y.bad = true →
    (∃ e, (exec (serving server) around op.action w).1 = .error e) ∧
      after.map Exchange.statement
        = if transactionOpen (before ++ [y]) then [rollingBack] else []
  /-- nothing is sent for an event but for its readings until they have been committed -/
  addEvent : ∀ (e : Event) w before y after, e.readings ≠ [] →
    log server around (Operation.addEvent e).action w = before ++ y :: after →
    (∀ docs, y.call ≠ .insert .readings docs) →
    ∃ z ∈ before,
      z.call = .insert .readings ((stamped around w.taken e).readings.map Reading.toDocument) ∧
      z.statement = committing ∧ z.refused = false
  /-- nothing but the readings is deleted until they have been -/
  scrubAllEvents : ∀ w before y after,
    log server around Operation.scrubAllEvents.action w = before ++ y :: after →
    (∀ f, y.call ≠ .deleteAll .readings f) →
    ∃ z ∈ before, z.call = .deleteAll .readings .all ∧ z.refused = false
  /-- a descriptor is changed only after a look-up of its name that has found no other one -/
  updateValueDescriptor : ∀ (d : ValueDescriptor) w before y after c id u,
    log server around (Operation.updateValueDescriptor d).action w = before ++ y :: after →
    y.call = .update c id u →
    ∃ z ∈ before, z.call = .find .valueDescriptors (.eq "name" (.string d.name)) (some 1) ∧
      (firstIn z.reply = .error .notFound ∨
        ∃ existing, firstIn z.reply = .ok existing ∧ existing.id = d.id)
  /-- a descriptor is deleted only after it has been found and the server has sent a zero as the
  number of readings with its name -/
  deleteValueDescriptor : ∀ text w before y after c id,
    log server around (Operation.deleteValueDescriptorById text).action w = before ++ y :: after →
    y.call = .delete c id →
    ∃ d, (∃ z ∈ before, z.call = .find .valueDescriptors (byId id) (some 1) ∧
        firstIn z.reply = .ok d) ∧
      ∃ z ∈ before, z.call = .count .readings (.eq "name" (.string d.name)) ∧
        ∃ cells, z.reply = some (.rows (.integer 0 :: cells))
  /-- a name is passed over only if the server has no row for it -/
  valueDescriptorsByName : ∀ names (w : World Session) ds, w.store.link = .ready →
    (exec (serving server) around (Operation.valueDescriptorsByName names).action w).1 = .ok ds →
    LookedUp names (log server around (Operation.valueDescriptorsByName names).action w) ds

/-- **Operations stop at the first failure**: at the first statement that the server refuses and at
the first row that is not as expected, whatever the server answers to each call. Where one write
depends on other statements it is sent after these have been answered. A session that keeps its
answers from the start is one such server (`serving_script`). -/
theorem fail_stop : FailStopClient server around where
  sends op w := sent_log server around w op.action
  stops op w before y after hfair hlog hbad := by
    obtain ⟨⟨e, he, -⟩, hafter⟩ := (FailStop.operation op w hfair).after_bad hlog hbad
    exact ⟨⟨e, failure?_eq_some.1 he⟩, hafter⟩
  addEvent _ _ _ _ _ hne hlog hy := record_after_readings hne hlog hy
  scrubAllEvents _ _ _ _ hlog hy := events_after_readings hlog hy
  updateValueDescriptor _ _ _ _ _ _ _ _ hlog hy := change_after_lookup hlog hy
  deleteValueDescriptor _ _ _ _ _ _ _ hlog hy := deletion_after_count hlog hy
  valueDescriptorsByName _ _ _ hready hok := lookedUp_of_ok hready hok

/-- The server refuses to delete the readings: the events are not deleted, and the error is
reported. The one exchange is all that happens. -/
theorem fail_stop_of_refused_deletion :
    let refusing : Server := fun _ => ⟨[.failure ⟨1205, "HY000", "lock wait timeout"⟩], none, none⟩
    let around : Surroundings := ⟨0, fun _ => .nil⟩
    let w : World Session := ⟨.start .ready, 0⟩
    (∃ y, log refusing around Operation.scrubAllEvents.action w = [y] ∧ y.bad = true) ∧
      ∃ e, (exec (serving refusing) around Operation.scrubAllEvents.action w).1 = .error e := by
  intro refusing around w
  obtain ⟨s, hs⟩ : ∃ s, statementOf (.deleteAll .readings .all) = some (.ok s) := ⟨_, rfl⟩
  have hone : log refusing around Operation.scrubAllEvents.action w
      = [⟨.deleteAll .readings .all, s, some (.failure ⟨1205, "HY000", "lock wait timeout"⟩)⟩] := by
    change log refusing around (Action.call (.deleteAll .readings .all) >>= _) w = _
    rw [log_bind, log_call, exec_call, answer_written rfl hs, exchangesFor_written rfl hs]
    rfl
  refine ⟨⟨_, hone, rfl⟩, ?_⟩
  refine ((fail_stop refusing around).stops .scrubAllEvents w [] _ [] ?_ hone rfl).1
  rw [hone]
  simp [Exchange.Fair]

end Telemetry.Sql
