import Telemetry.Json.Reader
import Telemetry.Proofs.Filter
import Telemetry.Proofs.Memory.Writes
import Telemetry.Proofs.Sql.ConditionText

/-!
# What the condition of a filter means

The in-memory store evaluates a filter, the SQL store writes it as a condition. The text of the
condition is read again, as a test of rows, and the test is compared with the evaluation. A document
stands in a row under its own id.

* `Filter.Plain` — which conditions on fields can be written and mean what they mean.
* `means_eq`, `means_range`, `means_among` — conditions on single fields.
* `means_and`, `conditionOf_means` — conjunctions, and by recursion every filter.
* `condition_reads_as_filter` — what is read from the text of a filter is what the filter says.
-/

namespace Telemetry

/-! ## Filters whose conditions can be read -/

namespace Filter

mutual

/-- The conditions on single fields that a filter is made of. Every filter is a conjunction of its
leaves, however it is nested. -/
def leaves : Filter → List Filter
  | .and parts => leavesOfAll parts
  | f => [f]

/-- The conditions of several filters. -/
def leavesOfAll : List Filter → List Filter
  | [] => []
  | f :: fs => f.leaves ++ leavesOfAll fs

end

/-- The values that a field is compared with. These are the ones that the server has to read as
JSON. -/
def wanted : Filter → List Json.Value
  | .eq _ v => [v]
  | .among _ vs => vs
  | _ => []

/-- What a condition on a field must be like: the field has a plain name, an id is compared with
texts and no field with arrays, and a range has a bound. -/
def Plain : Filter → Prop
  | .all | .and _ => True
  | .eq field v => isPlain field v
  | .range field lower upper =>
    Sql.isPlainName field = true ∧ (lower ≠ .unbounded ∨ upper ≠ .unbounded)
  | .among field vs => ∀ v ∈ vs, isPlain field v
where
  /-- A comparison of a field with a value. -/
  isPlain (field : String) (v : Json.Value) : Prop :=
    Sql.isPlainName field = true ∧ v.isArray = false ∧ (field = "id" → ∃ s, v = .string s)

/-- A field that is tested for a range has no other values than numbers of 64 bits. Otherwise the
server would make a number of a text, which a filter does not. -/
def Numeric (d : Document) : Filter → Prop
  | .range field _ _ => ∀ v, d.get? field = some v → ∃ n, v = .ofInt64 n
  | _ => True

end Filter

namespace Sql

/-! ## Single fields -/

section

variable (e : Entry)

/-- Containment as the server has it is the equality of the in-memory store, as long as no array is
looked for. -/
theorem Test.contains_eq {v : Json.Value} (hv : v.isArray = false) (field : String) :
    Test.contains field v e
      = (e.doc.get? field).any fun stored => Filter.valueMatches stored v := by
  rw [Test.contains]
  cases e.doc.get? field with
  | none => rfl
  | some stored =>
    cases stored with
    | array items =>
      -- the value itself is no array, so it can only be one of the items
      have differs : (Json.Value.array items).same v = false := by
        cases v with
        | array => cases hv
        | _ => rw [Json.Value.same] <;> simp
      simp [Filter.valueMatches, hv, differs]
    | _ => rfl

/-- The id column and the id in the document are the same, so it does not matter which of them is
looked at. -/
theorem Test.idAmong_eq (h : e.doc.get? "id" = some (.string e.id)) (ids : List String) :
    Test.idAmong ids e = (Filter.among "id" (ids.map .string)).holds e.doc := by
  rw [Filter.holds_among_strings h, Test.idAmong]
  exact List.contains_eq_mem ..

theorem Test.compares_eq {field : String} {m : Int64}
    (h : e.doc.get? field = some (.ofInt64 m)) (comparison : Comparison) (n : Int64) :
    Test.compares field comparison n e = comparison.test m.toInt n.toInt := by
  rw [Test.compares, h]
  rfl

/-- The comparison with a lower bound says what the bound says of a number. -/
theorem lowerComparison_test {field : String} {m : Int64}
    (h : e.doc.get? field = some (.ofInt64 m)) (lower : Bound) :
    ((lowerComparison field lower).all fun c => c.test e) = lower.admitsAbove m := by
  cases lower with
  | unbounded => rfl
  | included n | excluded n =>
    simp [lowerComparison, Condition.test, Test.compares_eq e h, Comparison.test,
      Bound.admitsAbove, Int64.le_iff_toInt_le, Int64.lt_iff_toInt_lt]

/-- The comparison with an upper bound says what the bound says of a number. -/
theorem upperComparison_test {field : String} {m : Int64}
    (h : e.doc.get? field = some (.ofInt64 m)) (upper : Bound) :
    ((upperComparison field upper).all fun c => c.test e) = upper.admitsBelow m := by
  cases upper with
  | unbounded => rfl
  | included n | excluded n =>
    simp [upperComparison, Condition.test, Test.compares_eq e h, Comparison.test,
      Bound.admitsBelow, Int64.le_iff_toInt_le, Int64.lt_iff_toInt_lt]

/-- The comparisons that a range is written as. -/
abbrev comparisons (field : String) (lower upper : Bound) : List Condition :=
  lowerComparison field lower ++ upperComparison field upper

theorem comparisons_ne_nil {field : String} {lower upper : Bound}
    (h : lower ≠ .unbounded ∨ upper ≠ .unbounded) : comparisons field lower upper ≠ [] := by
  cases lower <;> cases upper <;> simp_all [lowerComparison, upperComparison]

/-- A range with comparisons is their conjunction. -/
theorem conditionOf_range {field : String} {lower upper : Bound}
    (h : comparisons field lower upper ≠ []) :
    conditionOf (.range field lower upper) = .ok (.all (comparisons field lower upper)) := by
  rw [conditionOf]
  split
  · next none => exact absurd none h
  · rfl

theorem eq_compares_of_mem {field : String} {lower upper : Bound} {c : Condition}
    (hc : c ∈ comparisons field lower upper) : ∃ comparison n, c = .compares field comparison n := by
  rcases List.mem_append.1 hc with hc | hc
  · cases lower <;> simp_all [lowerComparison]
  · cases upper <;> simp_all [upperComparison]

/-- A missing field fails every comparison, and there is at least one. So a range fails on a missing
field, as the filter does. -/
theorem comparisons_test {field : String} {lower upper : Bound}
    (hbound : lower ≠ .unbounded ∨ upper ≠ .unbounded)
    (hnumeric : ∀ v, e.doc.get? field = some v → ∃ n, v = .ofInt64 n) :
    ((comparisons field lower upper).all fun c => c.test e)
      = (Filter.range field lower upper).holds e.doc := by
  -- a missing field is no number, and the server takes the comparison for not true
  cases hget : e.doc.get? field with
  | none =>
    obtain ⟨c, hc⟩ := List.exists_mem_of_ne_nil _ (comparisons_ne_nil hbound)
    obtain ⟨comparison, n, rfl⟩ := eq_compares_of_mem hc
    have fails : ¬∀ c ∈ comparisons field lower upper, c.test e = true := by
      intro h
      have one := h _ hc
      rw [Condition.test, Test.compares, hget] at one
      cases one
    rw [Filter.holds, hget, Bool.eq_false_iff.2 (mt List.all_eq_true.1 fails)]
    rfl
  | some v =>
    obtain ⟨m, rfl⟩ := hnumeric v hget
    rw [Filter.holds_range_int64 hget, List.all_append, lowerComparison_test e hget,
      upperComparison_test e hget]

end

/-! ## The condition of a filter -/

/-- A condition is read as a term, and as what a filter says of the rows whose documents have their
id and numbers where numbers are compared. -/
structure Means (json : String → Option Json.Value) (f : Filter) (c : Condition) : Prop where
  reads : TermReads json c
  test : ∀ e : Entry, e.doc.get? "id" = some (.string e.id) →
    (∀ p ∈ f.leaves, p.Numeric e.doc) → c.test e = f.holds e.doc

section

variable {json : String → Option Json.Value}

/-- Values that are texts can be bound as ids. -/
theorem idTexts_of_strings {vs : List Json.Value} (h : ∀ v ∈ vs, ∃ s, v = .string s) :
    ∃ ids, idTexts vs = .ok ids ∧ vs = ids.map .string := by
  induction vs with
  | nil => exact ⟨[], rfl, rfl⟩
  | cons v vs ih =>
    obtain ⟨⟨s, rfl⟩, hvs⟩ := List.forall_mem_cons.1 h
    obtain ⟨ids, hids, rfl⟩ := ih hvs
    exact ⟨s :: ids, by rw [idTexts, hids]; rfl, rfl⟩

/-- The filter of everything is the condition that always holds. -/
theorem means_all : Means json .all .always := ⟨.factor .always, fun _ _ _ => rfl⟩

/-- Equality means what it says, in the id column and in the fields of the document. In the column
texts are compared, and in a field the value may also be an item of an array. -/
theorem means_eq {field : String} {v : Json.Value} (hplain : (Filter.eq field v).Plain)
    (hv : json v.compact = some v) :
    ∃ c, conditionOf (.eq field v) = .ok c ∧ Means json (.eq field v) c := by
  obtain ⟨hname, hitem, hid⟩ := hplain
  -- the id is bound by itself, any other value as JSON
  by_cases hfield : field = "id"
  · obtain ⟨s, rfl⟩ := hid hfield
    subst hfield
    refine ⟨.idIs s, rfl, .factor (.idIs s), fun e he _ => ?_⟩
    rw [Condition.test, Test.idAmong_eq e he]
    simp [Filter.holds, he]
  · have written : conditionOf (.eq field v) = .ok (.contains field v) := by
      rw [conditionOf, if_neg hfield]
    refine ⟨_, written, .factor (.contains hname hv), fun e _ _ => ?_⟩
    rw [Condition.test, Test.contains_eq e hitem, Filter.holds]

/-- A range with a bound means what it says, where there are numbers. -/
theorem means_range {field : String} {lower upper : Bound}
    (hplain : (Filter.range field lower upper).Plain) :
    ∃ c, conditionOf (.range field lower upper) = .ok c ∧
      Means json (.range field lower upper) c := by
  obtain ⟨hname, hbound⟩ := hplain
  have hne : comparisons field lower upper ≠ [] := comparisons_ne_nil hbound
  refine ⟨_, conditionOf_range hne, .all hne fun c hc => ?_, fun e _ hnumeric => ?_⟩
  · obtain ⟨comparison, n, rfl⟩ := eq_compares_of_mem hc
    exact .factor (.compares hname comparison n)
  · rw [Condition.test_all]
    exact comparisons_test e hbound (hnumeric _ (List.mem_singleton_self _))

/-- A choice means what it says. Written out it is a disjunction, so it stands in parentheses:
without them an `AND` next to it would take only its nearest part. -/
theorem means_among {field : String} {vs : List Json.Value} (hplain : (Filter.among field vs).Plain)
    (hvs : ∀ v ∈ vs, json v.compact = some v) :
    ∃ c, conditionOf (.among field vs) = .ok c ∧ Means json (.among field vs) c := by
  -- nothing to choose from is written as a condition that never holds
  by_cases hne : vs = []
  · subst hne
    refine ⟨.never, rfl, .factor .never, fun e _ _ => ?_⟩
    rw [Filter.holds]
    cases e.doc.get? field <;> rfl
  by_cases hfield : field = "id"
  · obtain ⟨ids, hids, rfl⟩ := idTexts_of_strings fun v hv => (hplain v hv).2.2 hfield
    subst hfield
    refine ⟨.idAmong ids, ?_, .factor (.idAmong (by simpa using hne)), fun e he _ => ?_⟩
    · rw [conditionOf, if_pos rfl, hids]
      · rfl
      · exact hne
    · rw [Condition.test, Test.idAmong_eq e he]
  · have written : conditionOf (.among field vs)
        = .ok (.group (.any (vs.map (.contains field)))) := by
      rw [conditionOf, if_neg hfield]
      exact hne
    have terms : ∀ c ∈ vs.map (.contains field), TermReads json c := by
      intro c hc
      obtain ⟨v, hv, rfl⟩ := List.mem_map.1 hc
      exact .factor (.contains (hplain v hv).1 (hvs v hv))
    refine ⟨_, written, .factor (.group (.any (by simpa using hne) terms)), fun e _ _ => ?_⟩
    have each : vs.map (fun v => (Condition.contains field v).test e)
        = vs.map fun v => (e.doc.get? field).any fun stored => Filter.valueMatches stored v :=
      List.map_congr_left fun v hv => by rw [Condition.test, Test.contains_eq e (hplain v hv).2.1]
    have any : (Condition.group (.any (vs.map (.contains field)))).test e
        = (vs.map fun v => (Condition.contains field v).test e).any id := by
      rw [Condition.test_group, Condition.test_any, List.any_map, List.any_map]
      rfl
    rw [any, each, List.any_map, Filter.holds]
    cases e.doc.get? field with
    | none => exact List.any_eq_false.2 fun _ _ => Bool.false_ne_true
    | some stored => rfl

theorem reads_of_forall₂ {fs : List Filter} {cs : List Condition}
    (h : List.Forall₂ (Means json) fs cs) : ∀ c ∈ cs, TermReads json c := by
  induction h with
  | nil => exact List.forall_mem_nil _
  | cons hf _ ih => exact List.forall_mem_cons.2 ⟨hf.reads, ih⟩

/-- Conditions that mean their filters all hold if the filters do. -/
theorem tests_of_forall₂ {fs : List Filter} {cs : List Condition}
    (h : List.Forall₂ (Means json) fs cs) {e : Entry} (he : e.doc.get? "id" = some (.string e.id))
    (hnumeric : ∀ p ∈ Filter.leavesOfAll fs, p.Numeric e.doc) :
    (cs.all fun c => c.test e) = Filter.allHold fs e.doc := by
  induction h with
  | nil => rfl
  | cons hf _ ih =>
    have first := hf.test e he fun p hp => hnumeric p (List.mem_append_left _ hp)
    have rest := ih fun p hp => hnumeric p (List.mem_append_right _ hp)
    rw [List.all_cons, first, rest, Filter.allHold]

/-- A conjunction means what it says if its parts do. The parts may be conjunctions again, and so it
has parentheses of its own. -/
theorem means_and {fs : List Filter} {cs : List Condition} (hcs : conditionsOf fs = .ok cs)
    (h : List.Forall₂ (Means json) fs cs) :
    ∃ c, conditionOf (.and fs) = .ok c ∧ Means json (.and fs) c := by
  cases h with
  | nil => exact ⟨.always, rfl, .factor .always, fun _ _ _ => rfl⟩
  | @cons f c fs cs hf hfs =>
    have all : List.Forall₂ (Means json) (f :: fs) (c :: cs) := .cons hf hfs
    have written : conditionOf (.and (f :: fs)) = .ok (.group (.all (c :: cs))) := by
      rw [conditionOf, hcs]
      · rfl
      · exact nofun
    have terms : TermReads json (.all (c :: cs)) :=
      .all (List.cons_ne_nil c cs) (reads_of_forall₂ all)
    refine ⟨_, written, .factor (.group (.term terms)), ?_⟩
    intro e he hnumeric
    rw [Condition.test_group, Condition.test_all, Filter.holds]
    exact tests_of_forall₂ all he hnumeric

mutual

/-- The condition of a filter is read as a term that says what the filter says. The proof follows
the filter, with the lemma of each kind. -/
theorem conditionOf_means : ∀ {f : Filter}, (∀ p ∈ f.leaves, p.Plain) →
    (∀ p ∈ f.leaves, ∀ v ∈ p.wanted, json v.compact = some v) →
    ∃ c, conditionOf f = .ok c ∧ Means json f c
  | .all, _, _ => ⟨.always, rfl, means_all⟩
  | .eq _ v, hplain, hv =>
    means_eq (hplain _ (List.mem_singleton_self _))
      (hv _ (List.mem_singleton_self _) v (List.mem_singleton_self v))
  | .range .., hplain, _ => means_range (hplain _ (List.mem_singleton_self _))
  | .among .., hplain, hv =>
    means_among (hplain _ (List.mem_singleton_self _)) (hv _ (List.mem_singleton_self _))
  | .and fs, hplain, hv => by
    obtain ⟨cs, hcs, all⟩ := conditionsOf_mean hplain hv
    exact means_and hcs all

/-- The conditions of several filters, one for each of them. The induction is over the parts of a
conjunction, together with that over the filter. -/
theorem conditionsOf_mean : ∀ {fs : List Filter}, (∀ p ∈ Filter.leavesOfAll fs, p.Plain) →
    (∀ p ∈ Filter.leavesOfAll fs, ∀ v ∈ p.wanted, json v.compact = some v) →
    ∃ cs, conditionsOf fs = .ok cs ∧ List.Forall₂ (Means json) fs cs
  | [], _, _ => ⟨[], rfl, .nil⟩
  | f :: fs, hplain, hv => by
    obtain ⟨hplain₁, hplain₂⟩ := List.forall_mem_append.1 hplain
    obtain ⟨hv₁, hv₂⟩ := List.forall_mem_append.1 hv
    obtain ⟨c, hc, means⟩ := conditionOf_means hplain₁ hv₁
    obtain ⟨cs, hcs, all⟩ := conditionsOf_mean hplain₂ hv₂
    exact ⟨c :: cs, by rw [conditionsOf, hc, hcs]; rfl, .cons means all⟩

end

/-- **A condition means its filter**: the text of a filter's condition, with its values, says of a
row what the filter says of the document, however deep the filter is nested. The row is given by its
id and its document, and the server must read the values as they are meant. -/
theorem condition_reads_as_filter {f : Filter} (hplain : ∀ p ∈ f.leaves, p.Plain)
    (hjson : ∀ p ∈ f.leaves, ∀ v ∈ p.wanted, json v.compact = some v) :
    ∃ c test, conditionOf f = .ok c ∧ readCondition json (.ofPieces c.pieces) = some test ∧
      ∀ (d : Document) (id : ObjectId), d.get? "id" = some (.string id.toHex) →
        (∀ p ∈ f.leaves, p.Numeric d) → test ⟨id.toHex, d⟩ = f.holds d := by
  obtain ⟨c, hc, means⟩ := conditionOf_means hplain hjson
  have read : ExpressionReads json c := .term means.reads
  exact ⟨c, c.test, hc, read.readCondition, fun d id => means.test ⟨id.toHex, d⟩⟩

end

/-- A range and a choice inside a conjunction, for an event that satisfies both. -/
theorem condition_reads_as_filter_of_nested :
    let json (s : String) : Option Json.Value := (Json.Value.read s).toOption
    let f : Filter := .and [.range "created" (.included 5) (.excluded 9),
      .and [.among "device" [.string "boiler", .string "pump"],
        .range "pushed" (.excluded 0) .unbounded]]
    let id : ObjectId := .nil
    let d : Document := .ofFields [("id", .string id.toHex), ("created", .ofInt64 7),
      ("device", .string "pump"), ("pushed", .ofInt64 8)]
    (∀ p ∈ f.leaves, p.Plain) ∧ (∀ p ∈ f.leaves, ∀ v ∈ p.wanted, json v.compact = some v) ∧
      d.get? "id" = some (.string id.toHex) ∧ (∀ p ∈ f.leaves, p.Numeric d) ∧
      ∃ c test, conditionOf f = .ok c ∧ readCondition json (.ofPieces c.pieces) = some test ∧
        test ⟨id.toHex, d⟩ = true := by
  intro json f id d
  have plain : ∀ p ∈ f.leaves, p.Plain := by
    have name (field : String) (h : isPlainName field = true) (s : String) :
        Filter.Plain.isPlain field (.string s) := ⟨h, rfl, fun _ => ⟨s, rfl⟩⟩
    refine List.forall_mem_cons.2 ⟨⟨by decide, by decide⟩, List.forall_mem_cons.2 ⟨?_,
      List.forall_mem_singleton.2 ⟨by decide, by decide⟩⟩⟩
    exact List.forall_mem_cons.2 ⟨name _ (by decide) _,
      List.forall_mem_singleton.2 (name _ (by decide) _)⟩
  have reads : ∀ p ∈ f.leaves, ∀ v ∈ p.wanted, json v.compact = some v := by
    refine List.forall_mem_cons.2 ⟨List.forall_mem_nil _, List.forall_mem_cons.2 ⟨?_,
      List.forall_mem_singleton.2 (List.forall_mem_nil _)⟩⟩
    exact List.forall_mem_cons.2 ⟨by cbv, List.forall_mem_singleton.2 (by cbv)⟩
  have get? (field : String) : d.get? field = OrderedMap.lookup field _ :=
    Document.get?_ofFields _ field
  have named : d.get? "id" = some (.string id.toHex) := get? "id"
  have created : d.get? "created" = some (.ofInt64 7) := get? "created"
  have device : d.get? "device" = some (.string "pump") := get? "device"
  have pushed : d.get? "pushed" = some (.ofInt64 8) := get? "pushed"
  have numeric : ∀ p ∈ f.leaves, p.Numeric d := by
    refine List.forall_mem_cons.2 ⟨fun v hv => ⟨7, ?_⟩, List.forall_mem_cons.2 ⟨trivial,
      List.forall_mem_singleton.2 fun v hv => ⟨8, ?_⟩⟩⟩
    · exact (Option.some.inj (created.symm.trans hv)).symm
    · exact (Option.some.inj (pushed.symm.trans hv)).symm
  obtain ⟨c, test, hc, read, holds⟩ := condition_reads_as_filter plain reads
  have satisfied : f.holds d = true := by
    simp only [f, Filter.holds, Filter.allHold, created, device, pushed, Option.bind_some,
      Option.any_some, List.any_cons, List.any_nil, Filter.valueMatches_string]
    decide
  exact ⟨plain, reads, named, numeric, c, test, hc, read, (holds d id named numeric).trans satisfied⟩

end Sql

end Telemetry
