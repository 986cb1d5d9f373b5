import Telemetry.Admin.Tool
import Telemetry.Proofs.Admin.CommandLine
import Telemetry.Proofs.Calls
import Telemetry.Proofs.Client.Foreseen
import Telemetry.Proofs.Memory.Selection

/-!
# Nothing is deleted without confirmation

A command empties the collections that it names, and only if it has been confirmed. All other
commands make no call that could change a collection, whatever they are answered, and a deletion
that has not been confirmed makes no call at all.

* `Program.Asks.spares` — a collection that no call of a program writes to is as it was, in every
  store.
* `Command.run_spares`, `Command.run_empties` — what a command leaves, and what it empties in an
  open store.
* `runOn_eq` — `perform`, by which a command line is run here, is what the tool does.
* `deletes_only_confirmed` — for every command line and every state of the store.
-/

namespace Telemetry

open Program

/-! ## Collections that are spared -/

/-- Whether a call does not write to a collection. Queries and counts write to none. -/
def Call.Spares (col : Collection) : Call → Prop
  | .insert c _ | .update c _ _ | .delete c _ | .deleteAll c _ => c ≠ col
  | .ping | .find .. | .count .. | .close => True

namespace Memory

variable {col c : Collection}

theorem table_setTable_of_ne (h : c ≠ col) (m : Memory) (t : Table) :
    (m.setTable c t).table col = m.table col := by
  rw [table_setTable, if_neg h.symm]

/-- A call that does not write to a collection leaves it, be it taken up or not. A closed store
takes none up, and an open one writes to one table at most. -/
theorem answer_spares {call : Call} (h : call.Spares col) (m : Memory) :
    (answer call m).2.table col = m.table col := by
  -- a closed store is left as it is, so only what a call does to an open one is to be looked at
  have opened {α : Type} (k : Memory → Except StoreError α × Memory)
      (hk : ∀ m : Memory, (k m).2.table col = m.table col) :
      (m.whenOpen k).2.table col = m.table col :=
    table_whenOpen (R := fun t t' => t' = t) (fun _ => rfl) hk m
  cases call with
  | ping => exact opened _ fun _ => rfl
  | find c f limit => exact opened _ fun _ => rfl
  | count c f => exact opened _ fun _ => rfl
  | close => exact table_closed m true col
  | insert c docs =>
    refine opened _ fun m => ?_
    unfold Memory.insert
    split
    · rfl
    · exact table_setTable_of_ne h _ _
  | update c id u =>
    refine opened _ fun m => ?_
    unfold Memory.update
    split
    · rfl
    · dsimp only
      split
      · rfl
      · exact table_setTable_of_ne h _ _
  | delete c id =>
    refine opened _ fun m => ?_
    unfold Memory.delete
    split
    · exact table_setTable_of_ne h _ _
    · rfl
  | deleteAll c f => exact opened _ fun m => table_setTable_of_ne h _ _

end Memory

/-- A program leaves a collection that its calls do not write to, whatever they are answered. The
induction is over the program, with one call at a time from `answer_spares`. -/
theorem Program.Asks.spares {α : Type} {col : Collection} {p : Program α}
    (hp : p.Asks (Call.Spares col)) (around : Surroundings) (w : World Memory) :
    (p.run Memory.backend around w).2.store.table col = w.store.table col := by
  induction p generalizing w with
  | done a => rfl
  | call c next ih =>
    exact (ih _ (hp.2 _) _).trans (Memory.answer_spares hp.1 w.store)
  | now next ih => exact ih _ (hp _) w
  | freshId next ih => exact ih _ (hp _) { w with taken := w.taken + 1 }

namespace Admin

/-! ## Jobs -/

section

variable {α β : Type}

namespace Job

/-- Every call that a job can make satisfies `P`, whatever it is answered. The calls are those of
its program, so no store is needed to tell them. -/
def Asks (P : Call → Prop) (j : Job α) : Prop := Program.Asks P j.run

namespace Asks

variable {P : Call → Prop}

theorem pure (a : α) : Asks P (Pure.pure a) := trivial

theorem throw (f : Failure) : Asks P (MonadExcept.throw f : Job α) := trivial

/-- A job that attempts an action asks what the action asks, whatever task it is for. -/
theorem attempt {a : Action α} (ha : a.Asks P) (t : Task) : Asks P (Admin.attempt t a) :=
  Program.Asks.bind ha fun _ => trivial

theorem bind {j : Job α} {f : α → Job β} (hj : j.Asks P) (hf : ∀ x, (f x).Asks P) :
    Asks P (j >>= f) := by
  refine Program.Asks.bind hj fun r => ?_
  cases r with
  | error e => exact trivial
  | ok x => exact hf x

end Asks

end Job

theorem exec_attempt {σ : Type} (b : Backend σ) (around : Surroundings) (t : Task) (a : Action α)
    (w : World σ) :
    exec b around (attempt t a) w
      = ((exec b around a w).1.mapError (.task t), (exec b around a w).2) :=
  run_bind b around a.run (fun r => done (r.mapError (Failure.task t))) w

end

/-! ## What a command leaves -/

namespace Command

/-- Whether a command deletes data, once it has been confirmed. -/
def deletes : Command → Bool
  | scrubEvents _ | scrubValueDescriptors _ => true
  | _ => false

/-- The collections that a command empties. A command that has not been confirmed empties none. -/
def emptied : Command → List Collection
  | scrubEvents true => [.events, .readings]
  | scrubValueDescriptors true => [.valueDescriptors]
  | _ => []

/-- A command empties nothing without a confirmation. -/
theorem isConfirmed_of_mem_emptied {c : Command} {col : Collection} (h : col ∈ c.emptied) :
    c.isConfirmed = true := by
  cases c with
  | scrubEvents confirmed | scrubValueDescriptors confirmed =>
    cases confirmed with
    | true => rfl
    | false => cases h
  | _ => cases h

/-- A deletion that has not been confirmed fails before its first call. -/
theorem run_unconfirmed {c : Command} (hdeletes : c.deletes = true) (h : c.isConfirmed = false) :
    c.run = throw (.unconfirmed c.name) := by
  cases c with
  | ping | count _ => cases hdeletes
  | scrubEvents _ | scrubValueDescriptors _ =>
    cases h
    rfl

/-- A command does not write to a collection that it does not empty. Without a confirmation it
empties none, so it writes nothing at all. -/
theorem run_spares (c : Command) {col : Collection} (h : col ∉ c.emptied) :
    c.run.Asks (Call.Spares col) := by
  cases c with
  | ping => exact .bind (.attempt (.call trivial) _) fun _ => .pure _
  | count device =>
    cases device with
    | some device => exact .bind (.attempt (.call trivial) _) fun n => .pure _
    | none =>
      refine .bind (.bind (.attempt (.call trivial) _) fun _ => ?_) fun _ => .pure _
      refine .bind (.attempt (.call trivial) _) fun _ => ?_
      exact .bind (.attempt (.call trivial) _) fun _ => .pure _
  | scrubEvents confirmed =>
    cases confirmed with
    | false => exact .throw _
    | true =>
      -- the readings are emptied before the events
      rw [emptied, List.mem_cons, List.mem_singleton, not_or] at h
      have asked : Client.scrubAllEvents.Asks (Call.Spares col) :=
        .bind (.call (Ne.symm h.2)) fun _ => .bind (.call (Ne.symm h.1)) fun _ => .pure _
      exact .bind (.pure ()) fun _ => .bind (.attempt asked _) fun _ => .pure _
  | scrubValueDescriptors confirmed =>
    cases confirmed with
    | false => exact .throw _
    | true =>
      rw [emptied, List.mem_singleton] at h
      have asked : Client.scrubAllValueDescriptors.Asks (Call.Spares col) :=
        Action.Asks.call (P := Call.Spares col) (Ne.symm h)
      exact .bind (.pure ()) fun _ => .bind (.attempt asked _) fun _ => .pure _

/-- A command leaves every collection that it does not empty, in whatever state the store is. -/
theorem keeps (c : Command) {col : Collection} (h : col ∉ c.emptied) (around : Surroundings)
    (w : World Memory) :
    (exec Memory.backend around c.run w).2.store.table col = w.store.table col :=
  Program.Asks.spares (c.run_spares h) around w

end Command

/-! ## What a command does to an open store -/

end Admin

namespace Memory

variable {m : Memory}

theorem length_select_all (m : Memory) (c : Collection) :
    (m.select c .all).length = (m.table c).size := by
  have all : (m.table c).values.filter Filter.all.holds = (m.table c).values :=
    List.filter_eq_self.2 fun d _ => Filter.holds_all d
  rw [select, all]
  exact List.length_map ..

theorem count_all (m : Memory) (c : Collection) : m.count c .all = .ofNat (m.table c).size := by
  rw [Memory.count, length_select_all]

/-- The open store after a call that has emptied a collection. -/
def emptied (m : Memory) (c : Collection) : Memory := m.called.setTable c ∅

/-- A deletion of everything empties the collection, leaves the others, and tells how many documents
there were. -/
theorem answer_deleteAll_all (hopen : m.closed = false) (c : Collection) :
    answer (.deleteAll c .all) m = (.ok (.ofNat (m.table c).size), m.emptied c) := by
  have none : ((m.table c).filter fun d => !Filter.all.holds d) = ∅ := by
    refine OrderedMap.ext_entries (List.filter_eq_nil_iff.2 fun e _ => ?_)
    simp only [Filter.holds_all, Bool.not_true, Bool.false_eq_true, not_false_eq_true]
  rw [answer_deleteAll hopen, none, count_all]
  rfl

end Memory

namespace Admin

/-- The sizes of the collections, as they are counted. -/
def sizes (m : Memory) : Counts :=
  ⟨.ofNat m.events.size, .ofNat m.readings.size, .ofNat m.valueDescriptors.size⟩

section

variable (around : Surroundings) {w : World Memory} (hopen : w.store.closed = false)

include hopen

/-- A count asks the store once and changes nothing. -/
theorem exec_counting (t : Task) (c : Collection) :
    exec Memory.backend around (attempt t (Action.call (.count c .all))) w
      = (.ok (.ofNat (w.store.table c).size), w.called 1) := by
  have answer : Memory.backend.answer (.count c .all) w.store
      = (.ok (.ofNat (w.store.table c).size), w.store.called) := by
    rw [← Memory.count_all]
    exact Memory.answer_count hopen
  rw [exec_attempt, Action.exec_call, answer]
  rfl

theorem exec_scrubbing (c : Collection) :
    exec Memory.backend around (Action.call (.deleteAll c .all)) w
      = (.ok (.ofNat (w.store.table c).size), { w with store := w.store.emptied c }) := by
  have answer : Memory.backend.answer (.deleteAll c .all) w.store
      = (.ok (.ofNat (w.store.table c).size), w.store.emptied c) :=
    Memory.answer_deleteAll_all hopen c
  rw [Action.exec_call, answer]

/-- A count without a name goes through all three collections. -/
theorem exec_count :
    exec Memory.backend around (Command.count none).run w
      = (.ok (.counts (sizes w.store)), w.called 3) := by
  rw [Command.run, Admin.count, exec_bind, exec_bind, Client.eventCount,
    exec_counting around hopen]
  dsimp only
  rw [exec_bind, Client.readingCount, exec_counting around (w := w.called 1) hopen]
  dsimp only
  rw [exec_bind, Client.valueDescriptorCount,
    exec_counting around (w := (w.called 1).called 1) hopen]
  rfl

/-- A confirmed deletion of the events empties the readings first, then the events, and reports both
numbers. -/
theorem exec_scrubEvents :
    exec Memory.backend around (Command.scrubEvents true).run w
      = (.ok (.eventsScrubbed (.ofNat w.store.events.size) (.ofNat w.store.readings.size)),
          { w with store := (w.store.emptied .readings).emptied .events }) := by
  change exec Memory.backend around (attempt .scrubEvents Client.scrubAllEvents >>= _) w = _
  rw [exec_bind, exec_attempt, Client.scrubAllEvents, exec_bind, exec_scrubbing around hopen]
  dsimp only
  rw [exec_bind, exec_scrubbing around (w := { w with store := w.store.emptied .readings }) hopen]
  rfl

/-- A confirmed deletion of the descriptors empties theirs alone. -/
theorem exec_scrubValueDescriptors :
    exec Memory.backend around (Command.scrubValueDescriptors true).run w
      = (.ok (.valueDescriptorsScrubbed (.ofNat w.store.valueDescriptors.size)),
          { w with store := w.store.emptied .valueDescriptors }) := by
  change exec Memory.backend around (attempt _ (Action.call (.deleteAll _ .all)) >>= _) w = _
  rw [exec_bind, exec_attempt, exec_scrubbing around hopen]
  rfl

end

/-- The documents of some collections are gone, and every other collection is as it was. Nothing is
said of the number of calls. -/
structure OnlyEmptied (cols : List Collection) (m m' : Memory) : Prop where
  gone : ∀ c ∈ cols, m'.table c = ∅
  kept : ∀ c, c ∉ cols → m'.table c = m.table c

namespace Command

variable {c : Command} {w : World Memory}

/-- A confirmed deletion succeeds in an open store, and only what it names is gone. Nothing can
refuse it there, since it asks for all documents and gives no id. -/
theorem run_empties (hc : c.isConfirmed = true) (hopen : w.store.closed = false)
    (around : Surroundings) :
    (∃ report, (exec Memory.backend around c.run w).1 = .ok report) ∧
      OnlyEmptied c.emptied w.store (exec Memory.backend around c.run w).2.store := by
  have kept (col : Collection) (h : col ∉ c.emptied) :
      (exec Memory.backend around c.run w).2.store.table col = w.store.table col :=
    c.keeps h around w
  cases c with
  | ping | count _ => cases hc
  | scrubEvents _ =>
    cases hc
    rw [exec_scrubEvents around hopen] at kept ⊢
    refine ⟨⟨_, rfl⟩, fun col hcol => ?_, kept⟩
    rcases List.mem_cons.1 hcol with rfl | hcol
    · rfl
    · obtain rfl := List.mem_singleton.1 hcol
      rfl
  | scrubValueDescriptors _ =>
    cases hc
    rw [exec_scrubValueDescriptors around hopen] at kept ⊢
    refine ⟨⟨_, rfl⟩, fun col hcol => ?_, kept⟩
    obtain rfl := List.mem_singleton.1 hcol
    rfl

/-- Where a command has changed a document, it has been confirmed and has emptied what it names.
There is no command that changes a collection and leaves something in it. -/
theorem changed_by_run {around : Surroundings} {col : Collection} {k : ObjectId}
    (h : ((exec Memory.backend around c.run w).2.store.table col).get? k
      ≠ (w.store.table col).get? k) :
    c.isConfirmed = true ∧
      OnlyEmptied c.emptied w.store (exec Memory.backend around c.run w).2.store := by
  have hmem : col ∈ c.emptied := by
    by_contra hcol
    exact h (by rw [c.keeps hcol])
  have hc := isConfirmed_of_mem_emptied hmem
  have hopen : w.store.closed = false := by
    rw [Bool.eq_false_iff]
    intro hclosed
    have same : (exec Memory.backend around c.run w).2.store = w.store :=
      run_closed around c.run.run hclosed
    exact h (by rw [same])
  exact ⟨hc, (run_empties hc hopen around).2⟩

end Command

/-! ## What a command line does -/

/-- Read a command line and carry it out on a client. The result is what stops the command line, or
how its command ends. -/
def perform (args : List String) : Program (Except Stop (Except Failure Report)) :=
  match Invocation.parse args with
  | .error s => .done (.error s)
  | .ok i => i.command.run.run.bind fun r => .done (.ok r)

/-- No store is asked when a command line is performed, whatever the store is. Then nothing in it
can have been read either. -/
def Silent (args : List String) : Prop :=
  ∀ {σ : Type} (b : Backend σ) (around : Surroundings) (w : World σ),
    (perform args).calls b around w = []

section

variable {args : List String} {i : Invocation}

/-- A command line that is done at once asks no store anything. -/
theorem silent_of_done {r : Except Stop (Except Failure Report)} (h : perform args = .done r) :
    Silent args := by
  intro σ b around w
  rw [h]
  rfl

theorem perform_of_error {s : Stop} (h : Invocation.parse args = .error s) :
    perform args = .done (.error s) := by
  rw [perform, h]

theorem perform_of_ok (h : Invocation.parse args = .ok i) :
    perform args = i.command.run.run.bind fun r => .done (.ok r) := by
  rw [perform, h]

/-- A line that is parsed runs its command. The result is wrapped once more, since a line that is
not parsed has an error of its own. -/
theorem run_perform {σ : Type} (b : Backend σ) (around : Surroundings) (w : World σ)
    (h : Invocation.parse args = .ok i) :
    (perform args).run b around w
      = (.ok (exec b around i.command.run w).1, (exec b around i.command.run w).2) := by
  rw [perform_of_ok h, run_bind]
  rfl

/-- The tool performs its command line on the store that it has opened. -/
theorem runOn_eq {σ : Type} (b : Backend σ) (around : Surroundings) (store : σ)
    (h : Invocation.parse args = .ok i) :
    .ok (runOn b around store i.command).1 = ((perform args).run b around ⟨store, 0⟩).1 ∧
      (runOn b around store i.command).2.2
        = ((perform args).run b around ⟨store, 0⟩).2.store := by
  rw [run_perform b around ⟨store, 0⟩ h]
  exact ⟨rfl, rfl⟩

/-- A deletion without the option that confirms it is as good as its failure. -/
theorem perform_unconfirmed (h : Invocation.parse args = .ok i)
    (hdeletes : i.command.deletes = true) (hc : i.command.isConfirmed = false) :
    perform args = .done (.ok (.error (.unconfirmed i.command.name))) := by
  rw [perform_of_ok h, Command.run_unconfirmed hdeletes hc]
  rfl

end

/-- The line with the sizes of the three collections. -/
def sizesLine (m : Memory) : String :=
  "events=" ++ toString m.events.size ++ " readings=" ++ toString m.readings.size ++
    " value_descriptors=" ++ toString m.valueDescriptors.size

/-- The numbers are the sizes, unless a collection has outgrown the machine: they are printed from
words. -/
theorem line_sizes {m : Memory} (h : ∀ c, (m.table c).size < 2 ^ 64) :
    (Report.counts (sizes m)).line = sizesLine m := by
  have shown {n : Nat} (hn : n < 2 ^ 64) : toString (UInt64.ofNat n) = toString n := by
    change toString (UInt64.ofNat n).toNat = toString n
    rw [UInt64.toNat_ofNat_of_lt' hn]
  have events : toString (sizes m).events = toString m.events.size := shown (h .events)
  have readings : toString (sizes m).readings = toString m.readings.size := shown (h .readings)
  have valueDescriptors : toString (sizes m).valueDescriptors = toString m.valueDescriptors.size :=
    shown (h .valueDescriptors)
  rw [Report.line, sizesLine, events, readings, valueDescriptors]

/-- What a command line can do to the store of a client, by its result and the world it leaves. The
conditions are about the arguments as they are typed, and the effects about the tables. -/
structure Guarded (args : List String) (w : World Memory)
    (result : Except Stop (Except Failure Report)) (w' : World Memory) : Prop where
  /-- a document changes only by a deletion that is confirmed behind its name, and with it goes what
  the deletion names and nothing else -/
  changed : ∀ c k, (w'.store.table c).get? k ≠ (w.store.table c).get? k →
    ∃ i before after, Invocation.parse args = .ok i ∧
      args = before ++ i.command.name :: after ∧ "--yes" ∈ after ∧
      (i.command = .scrubEvents true ∧ OnlyEmptied [.events, .readings] w.store w'.store ∨
        i.command = .scrubValueDescriptors true ∧
          OnlyEmptied [.valueDescriptors] w.store w'.store)
  /-- a confirmed deletion in an open store succeeds -/
  confirmed : ∀ i, Invocation.parse args = .ok i → i.command.deletes = true → "--yes" ∈ args →
    w.store.closed = false →
      (∃ report, result = .ok (.ok report)) ∧ OnlyEmptied i.command.emptied w.store w'.store
  /-- any other deletion fails, and no store is asked -/
  unconfirmed : ∀ i, Invocation.parse args = .ok i → i.command.deletes = true → "--yes" ∉ args →
    result = .ok (.error (.unconfirmed i.command.name)) ∧ w' = w ∧ Silent args
  /-- no store is asked for a command line that is not accepted either -/
  stopped : ∀ s, Invocation.parse args = .error s → result = .error s ∧ w' = w ∧ Silent args
  /-- the sizes are counted and printed, and nothing changes but the number of calls -/
  counted : ∀ config, Invocation.parse args = .ok ⟨config, .count none⟩ →
    w.store.closed = false →
      result = .ok (.ok (.counts (sizes w.store))) ∧ w' = w.called 3 ∧
        ((∀ c, (w.store.table c).size < 2 ^ 64) →
          (Report.counts (sizes w.store)).line = sizesLine w.store)

/-- A line that is refused leaves the store as it is. It has been stopped before its command is
known to anyone who could ask the store. -/
theorem guarded_of_error {args : List String} {s : Stop} (w : World Memory)
    (parsed : Invocation.parse args = .error s) : Guarded args w (.error s) w where
  changed c k h := absurd rfl h
  confirmed i h := by
    rw [parsed] at h
    cases h
  unconfirmed i h := by
    rw [parsed] at h
    cases h
  stopped s' h := by
    obtain rfl := Except.error.inj (parsed.symm.trans h)
    exact ⟨rfl, rfl, silent_of_done (perform_of_error parsed)⟩
  counted config h := by
    rw [parsed] at h
    cases h

/-- A line that is accepted leaves what its command leaves, and empties only what it confirms.
Whether it confirms is read off the arguments. -/
theorem guarded_of_ok {args : List String} {i : Invocation} (around : Surroundings)
    (w : World Memory) (parsed : Invocation.parse args = .ok i) :
    Guarded args w (.ok (exec Memory.backend around i.command.run w).1)
      (exec Memory.backend around i.command.run w).2 where
  changed c k h := by
    obtain ⟨hc, emptied⟩ := Command.changed_by_run h
    obtain ⟨before, after, hargs, -, written⟩ := Invocation.parse_ok parsed
    refine ⟨i, before, after, parsed, hargs, written.confirmed.1 hc, ?_⟩
    -- a command that confirms is one of the two that empty something
    obtain ⟨config, command⟩ := i
    cases command with
    | ping | count _ => cases hc
    | scrubEvents _ =>
      cases hc
      exact .inl ⟨rfl, emptied⟩
    | scrubValueDescriptors _ =>
      cases hc
      exact .inr ⟨rfl, emptied⟩
  confirmed i' h _ hyes hopen := by
    obtain rfl := Except.ok.inj (parsed.symm.trans h)
    obtain ⟨⟨report, hreport⟩, emptied⟩ :=
      Command.run_empties ((Invocation.isConfirmed_iff parsed).2 hyes) hopen around
    exact ⟨⟨report, congrArg _ hreport⟩, emptied⟩
  unconfirmed i' h hdeletes hyes := by
    obtain rfl := Except.ok.inj (parsed.symm.trans h)
    have hc : i.command.isConfirmed = false := by
      rw [Bool.eq_false_iff]
      exact fun hc => hyes ((Invocation.isConfirmed_iff parsed).1 hc)
    rw [Command.run_unconfirmed hdeletes hc]
    exact ⟨rfl, rfl, silent_of_done (perform_unconfirmed parsed hdeletes hc)⟩
  stopped s h := by
    rw [parsed] at h
    cases h
  counted config h hopen := by
    obtain rfl := Except.ok.inj (parsed.symm.trans h)
    rw [exec_count around hopen]
    exact ⟨rfl, rfl, line_sizes⟩

/-- **Nothing is deleted without confirmation**: for every command line and in every state of the
store, documents change only by a deletion with the option that confirms it, and only those that it
names. A command line that is refused and a deletion without the option ask no store anything, and a
count tells the sizes and changes nothing. -/
theorem deletes_only_confirmed (args : List String) (around : Surroundings) (w : World Memory) :
    Guarded args w ((perform args).run Memory.backend around w).1
      ((perform args).run Memory.backend around w).2 := by
  cases parsed : Invocation.parse args with
  | error s =>
    rw [perform_of_error parsed]
    exact guarded_of_error w parsed
  | ok i =>
    rw [run_perform Memory.backend around w parsed]
    exact guarded_of_ok around w parsed

/-- A store with a document in every collection, so that an emptied collection can be told from one
that has been empty before. -/
def stocked : Memory := Memory.empty.after
  [.insert .events [Memory.deviceDocument "000000000000000000000001" "boiler"],
    .insert .readings [Memory.deviceDocument "000000000000000000000002" "boiler"],
    .insert .valueDescriptors [Memory.deviceDocument "000000000000000000000003" "boiler"]]

/-- A confirmed deletion of the events, with a file of settings. -/
def confirmedScrub : Invocation := ⟨some "admin.toml", .scrubEvents true⟩

/-- The reading goes with the event, and the value descriptor stays. -/
theorem deletes_only_confirmed_of_stock :
    let w' := ((perform confirmedScrub.arguments).run Memory.backend
      ⟨5, fun _ => ⟨4, by decide⟩⟩ ⟨stocked, 0⟩).2
    Invocation.parse confirmedScrub.arguments = .ok confirmedScrub ∧
      (w'.store.table .readings).get? ⟨2, by decide⟩
        ≠ (stocked.table .readings).get? ⟨2, by decide⟩ ∧
      OnlyEmptied [.events, .readings] stocked w'.store ∧
      (stocked.table .valueDescriptors).size = 1 := by
  intro w'
  have guarded := deletes_only_confirmed confirmedScrub.arguments ⟨5, fun _ => ⟨4, by decide⟩⟩
    ⟨stocked, 0⟩
  have parsed : Invocation.parse confirmedScrub.arguments = .ok confirmedScrub :=
    Invocation.parse_arguments (by decide)
  have hopen : stocked.closed = false := by rfl
  obtain ⟨-, emptied⟩ := guarded.confirmed confirmedScrub parsed rfl (by decide) hopen
  have stored : ((stocked.table .readings).get? ⟨2, by decide⟩).isSome = true := by decide +kernel
  refine ⟨parsed, fun same => ?_, emptied, by decide +kernel⟩
  rw [emptied.gone .readings (by decide)] at same
  rw [← same] at stored
  cases stored

end Admin

end Telemetry
