import Telemetry.Proofs.Sql.Exchange
import Telemetry.Proofs.Sql.Meaning

/-!
# Which calls can be written as statements

A statement is put together before a connection is taken. That can go wrong for three reasons: an id
is compared with something that is no text, an update sets a field whose name cannot stand in a
path, or a document has no id. Each of them is a condition on the arguments alone, and nothing else
goes wrong before a connection is taken.

* `Needs` — work that succeeds under a condition and else tells a cause.
* `needs_conditionOf`, `needs_updateRow`, `needs_rowsOf` — the conditions of filters, updates and
  documents.
* `needs_statementOf` — the condition of a call.
-/

namespace Telemetry

namespace Filter

/-- The field of a condition on a single field. Conjunctions have none of their own. -/
def field? : Filter → Option String
  | .eq field _ | .range field _ _ | .among field _ => some field
  | .all | .and _ => none

/-- Ids are compared with texts alone. An id column holds nothing else, so other values could only
be refused by the server. -/
def TextIds (f : Filter) : Prop :=
  ∀ p ∈ f.leaves, p.field? = some "id" → ∀ v ∈ p.wanted, ∃ s, v = .string s

end Filter

/-- A call has arguments that can be written as a statement: ids that are texts, documents with ids,
and fields with plain names. -/
def Call.Writable : Call → Prop
  | .ping | .delete .. | .close => True
  | .insert _ docs => ∀ d ∈ docs, ∃ id, d.id = .ok id
  | .find _ f _ | .count _ f | .deleteAll _ f => f.TextIds
  | .update _ _ (.replace _) => True
  | .update _ _ (.set fields) => ∀ field ∈ fields.entries, Sql.isPlainName field.1 = true

namespace Sql

/-! ## Work under a condition -/

/-- The result of work that succeeds if and only if `P` holds, and tells a cause if it does not. The
cause is kept out of it, as no statement depends on which one is told. -/
inductive Needs {α : Type} (P : Prop) : Except StoreError α → Prop
  | ok (h : P) (a : α) : Needs P (.ok a)
  | unexpected (h : ¬P) (cause : Cause) : Needs P (.error (.unexpected cause))

namespace Needs

variable {α β : Type} {P Q : Prop} {r : Except StoreError α} {f : α → Except StoreError β}

theorem exists_ok (h : Needs P r) (hP : P) : ∃ a, r = .ok a := by
  cases h with
  | ok _ a => exact ⟨a, rfl⟩
  | unexpected hnot => exact absurd hP hnot

theorem exists_unexpected (h : Needs P r) (hP : ¬P) : ∃ cause, r = .error (.unexpected cause) := by
  cases h with
  | ok holds => exact absurd holds hP
  | unexpected _ cause => exact ⟨cause, rfl⟩

theorem congr (h : Needs P r) (hiff : P ↔ Q) : Needs Q r := by
  cases h with
  | ok holds a => exact .ok (hiff.1 holds) a
  | unexpected hnot cause => exact .unexpected (mt hiff.2 hnot) cause

theorem bind (h : Needs P r) (hf : ∀ a, Needs Q (f a)) : Needs (P ∧ Q) (r >>= f) := by
  cases h with
  | ok holds a => exact (hf a).congr ⟨fun hQ => ⟨holds, hQ⟩, And.right⟩
  | unexpected hnot cause => exact .unexpected (fun both => hnot both.1) cause

theorem map (h : Needs P r) (g : α → β) : Needs P (r.map g) := by
  cases h with
  | ok holds a => exact .ok holds (g a)
  | unexpected hnot cause => exact .unexpected hnot cause

/-- What is given needs no condition. -/
theorem trivial (a : α) : Needs True (.ok a) := .ok True.intro a

end Needs

/-! ## Filters -/

/-- An id must be a text; whether it reads like an id is not asked. -/
theorem needs_idText (v : Json.Value) : Needs (∃ s, v = .string s) (idText v) := by
  cases v with
  | string s => exact .ok ⟨s, rfl⟩ s
  | null | boolean | number | array | object => exact .unexpected nofun _

/-- Of several ids each must be a text. -/
theorem needs_idTexts (vs : List Json.Value) :
    Needs (∀ v ∈ vs, ∃ s, v = .string s) (idTexts vs) := by
  induction vs with
  | nil => exact .ok (List.forall_mem_nil _) []
  | cons v vs ih =>
    rw [idTexts]
    refine ((needs_idText v).bind fun s => ih.bind fun ss => .trivial (s :: ss)).congr ?_
    rw [List.forall_mem_cons, and_true]

theorem textIds_leaf {f : Filter} (hf : f.leaves = [f]) :
    f.TextIds ↔ (f.field? = some "id" → ∀ v ∈ f.wanted, ∃ s, v = .string s) := by
  rw [Filter.TextIds, hf, List.forall_mem_singleton]

theorem textIds_and_nil : (Filter.and []).TextIds :=
  fun _ hp => absurd hp List.not_mem_nil

mutual

/-- A filter can be written if it compares ids with texts alone. The proof follows the filter, each
kind with its own reason. -/
theorem needs_conditionOf : ∀ f : Filter, Needs f.TextIds (conditionOf f)
  | .all => .ok ((textIds_leaf rfl).2 fun _ => List.forall_mem_nil _) Condition.always
  | .eq field v => by
    rw [conditionOf]
    split
    · next hid =>
      subst hid
      refine ((needs_idText v).map Condition.idIs).congr ?_
      rw [textIds_leaf rfl]
      exact ⟨fun text _ => List.forall_mem_singleton.2 text,
        fun text => text rfl v (List.mem_singleton_self v)⟩
    · next hid =>
      refine .ok ((textIds_leaf rfl).2 fun h => ?_) _
      exact absurd (Option.some.inj h) hid
  | .range field lower upper => by
    have any : (Filter.range field lower upper).TextIds :=
      (textIds_leaf rfl).2 fun _ => List.forall_mem_nil _
    rw [conditionOf]
    split <;> exact .ok any _
  | .among field [] => .ok ((textIds_leaf rfl).2 fun _ => List.forall_mem_nil _) Condition.never
  | .among field (v :: vs) => by
    -- only ids are bound as they are; any other value can be compared as JSON
    rw [conditionOf]
    · split
      · next hid =>
        subst hid
        refine ((needs_idTexts (v :: vs)).map Condition.idAmong).congr ?_
        rw [textIds_leaf rfl]
        exact ⟨fun texts _ => texts, fun texts => texts rfl⟩
      · next hid =>
        refine .ok ((textIds_leaf rfl).2 fun h => ?_) _
        exact absurd (Option.some.inj h) hid
    · exact List.cons_ne_nil v vs
  | .and [] => .ok textIds_and_nil Condition.always
  | .and (f :: fs) => (needs_conditionsOf (f :: fs)).map _

/-- The parts of a conjunction can be written if the conjunction can. -/
theorem needs_conditionsOf : ∀ fs : List Filter,
    Needs (Filter.and fs).TextIds (conditionsOf fs)
  | [] => .ok textIds_and_nil []
  | f :: fs => by
    rw [conditionsOf]
    refine ((needs_conditionOf f).bind fun c =>
      (needs_conditionsOf fs).bind fun cs => .trivial (c :: cs)).congr ?_
    rw [and_true]
    exact List.forall_mem_append.symm

end

/-! ## Updates and documents -/

/-- Fields can be set if their names are plain. -/
theorem needs_assignments (fields : List (String × Json.Value)) :
    Needs (∀ field ∈ fields, isPlainName field.1 = true) (assignments fields) := by
  induction fields with
  | nil => exact .ok (List.forall_mem_nil _) []
  | cons field fields ih =>
    rw [assignments, List.forall_mem_cons]
    split
    · next odd =>
      refine .unexpected (fun plain => ?_) _
      rw [plain.1] at odd
      cases odd
    · next plain =>
      have plain : isPlainName field.1 = true := by simpa using plain
      refine (ih.bind fun more => .trivial _).congr ?_
      rw [and_true, and_iff_right plain]

/-- An update can be written if it replaces the document, or sets fields with plain names. Nothing
is asked of the values, which are bound. -/
theorem needs_updateRow (c : Collection) (id : ObjectId) (u : Update) :
    Needs (Call.update c id u).Writable (updateRow c id u) := by
  have content : Needs (Call.update c id u).Writable (newContent id u) := by
    cases u with
    | replace d => exact .trivial _
    | set fields =>
      rw [newContent]
      split
      · next none =>
        refine .ok ?_ _
        rw [Call.Writable, List.isEmpty_iff.1 none]
        exact List.forall_mem_nil _
      · refine ((needs_assignments fields.entries).bind fun sets => .trivial _).congr ?_
        rw [and_true, Call.Writable]
  refine (content.bind fun content => .trivial _).congr ?_
  rw [and_true]

/-- Documents can be written as rows if each of them has an id. -/
theorem needs_rowsOf (docs : List Document) :
    Needs (∀ d ∈ docs, ∃ id, d.id = .ok id) (rowsOf docs) := by
  by_cases h : ∀ d ∈ docs, ∃ id, d.id = .ok id
  · obtain ⟨rows, hrows, -⟩ := rowsOf_of_ids h
    rw [hrows]
    exact .ok h rows
  · push Not at h
    obtain ⟨cause, hcause⟩ := rowsOf_malformed h
    rw [hcause]
    exact .unexpected (by push Not; exact h) cause

/-! ## Calls -/

/-- The statement of a call, of those that take one, can be put together if the call is writable.
What makes it so is read off the call: the ids in its filter and the names of its fields. -/
theorem needs_statementOf {c : Call} {s : Except StoreError Statement}
    (h : statementOf c = some s) : Needs c.Writable s := by
  cases c with
  | insert | close => cases h
  | ping | delete =>
    obtain rfl := Option.some.inj h
    exact .trivial _
  | find c f limit =>
    obtain rfl := Option.some.inj h
    refine ((needs_conditionOf f).bind fun condition => .trivial _).congr ?_
    rw [and_true, Call.Writable]
  | count c f | deleteAll c f =>
    obtain rfl := Option.some.inj h
    refine ((needs_conditionOf f).bind fun condition => .trivial _).congr ?_
    rw [and_true, Call.Writable]
  | update c id u =>
    obtain rfl := Option.some.inj h
    exact needs_updateRow c id u

end Sql

end Telemetry
