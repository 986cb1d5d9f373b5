import Telemetry.Client.Events
import Telemetry.Proofs.Entity
import Telemetry.Proofs.Json.Equality

/-!
# What filters say of typed fields

The conditions that the client asks for are on texts, lists of texts and times. On a field that
holds such a value each condition is a plain test of the value.
-/

namespace Telemetry

namespace Filter

variable {d : Document} {field : String}

/-- Everything is selected by the filter that asks for nothing. -/
@[simp] theorem holds_all (d : Document) : Filter.all.holds d = true := rfl

/-- Two filters joined select what both of them select, however they are joined: a conjunction takes
the second as a part, and any other filter is made into one. -/
@[simp] theorem holds_also (f g : Filter) (d : Document) :
    (f.also g).holds d = (f.holds d && g.holds d) := by
  have append : ∀ fs : List Filter, allHold (fs ++ [g]) d = (allHold fs d && g.holds d) := by
    intro fs
    induction fs with
    | nil => simp [allHold]
    | cons f fs ih => simp only [List.cons_append, allHold, ih, Bool.and_assoc]
  cases f with
  | and parts => simp only [also, holds, append]
  | _ => simp only [also, holds, allHold, Bool.and_true]

theorem valueMatches_string (s t : String) :
    valueMatches (.string s) (.string t) = decide (s = t) := by
  rw [Bool.eq_iff_iff]
  simp [valueMatches]

theorem valueMatches_strings (ss : List String) (t : String) :
    valueMatches (.array (ss.map .string)) (.string t) = decide (t ∈ ss) := by
  rw [Bool.eq_iff_iff]
  simp [valueMatches, Json.Value.isArray]

theorem holds_eq_string {s : String} (h : d.get? field = some (.string s)) (t : String) :
    (Filter.eq field (.string t)).holds d = decide (s = t) := by
  simp only [holds, h, Option.any_some, valueMatches_string]

/-- A field with several texts has the one that is asked for among them, or not. -/
theorem holds_eq_strings {ss : List String} (h : d.get? field = some (.array (ss.map .string)))
    (t : String) : (Filter.eq field (.string t)).holds d = decide (t ∈ ss) := by
  simp only [holds, h, Option.any_some, valueMatches_strings]

theorem holds_among_strings {s : String} (h : d.get? field = some (.string s)) (ts : List String) :
    (Filter.among field (ts.map .string)).holds d = decide (s ∈ ts) := by
  rw [Bool.eq_iff_iff]
  simp [holds, h, valueMatches_string]

theorem holds_range_int64 {n : Int64} (h : d.get? field = some (.ofInt64 n)) (lower upper : Bound) :
    (Filter.range field lower upper).holds d = (lower.admitsAbove n && upper.admitsBelow n) := by
  have hn : Json.Value.asInt64? (.ofInt64 n) = some n := Json.Whole.toInt64?_ofInt64 n
  simp only [holds, h, Option.bind_some, hn, Option.any_some]

end Filter

/-! ## Conditions on the id -/

section

variable {d : Document} {id : ObjectId}

theorem Filter.holds_byId (h : d.get? "id" = some (.string id.toHex)) (k : ObjectId) :
    (Client.byId k).holds d = decide (id = k) := by
  rw [Client.byId, Filter.holds_eq_string h]
  exact decide_eq_decide.2 ObjectId.toHex_inj

/-- The filter for some ids selects the documents that carry one of them. Ids are compared as texts
here, which is the same as long as all are in lower case. -/
theorem Filter.holds_amongIds (h : d.get? "id" = some (.string id.toHex)) (ids : List ObjectId) :
    (Client.amongIds ids).holds d = decide (id ∈ ids) := by
  have hids : (ids.map fun id => Json.Value.string id.toHex)
      = (ids.map ObjectId.toHex).map Json.Value.string := (List.map_map ..).symm
  rw [Client.amongIds, hids, Filter.holds_among_strings h]
  refine decide_eq_decide.2 ?_
  rw [List.mem_map]
  constructor
  · rintro ⟨k, hk, he⟩
    exact ObjectId.toHex_inj.1 he ▸ hk
  · exact fun hk => ⟨id, hk, rfl⟩

end

end Telemetry
