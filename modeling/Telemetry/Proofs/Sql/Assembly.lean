import Telemetry.Proofs.Sql.Writable

/-!
# How conditions are put together

The condition of a filter has slots for the values of the filter, one for each and in their order.
Everything else in its text is decided by the shape of the filter: what is left of it when all
values are taken out.

* `Filter.params`, `Filter.shape` — the values of a filter as they are bound, and the rest of it.
* `Assembles` — what a condition has of its filter; one lemma for each kind of filter.
* `conditionOf_assembles` — the condition of every filter is put together in this way.
* `count_slots` — the question marks in a text are its slots, if no other words have one.
-/

namespace Telemetry

/-! ## The values of a filter and its shape -/

namespace Bound

/-- What a bound binds. -/
def params : Bound → List Sql.Param
  | .included n | .excluded n => [.integer n]
  | .unbounded => []

/-- A bound of the same kind. Of a bound with a number the shape keeps that there is one. -/
def shape : Bound → Bound
  | .included _ => .included 0
  | .excluded _ => .excluded 0
  | .unbounded => .unbounded

end Bound

namespace Filter

/-- A value as it is bound to be compared with a field: an id by itself, other values as JSON. The
field decides, not the value. -/
def encoded (field : String) : Json.Value → Sql.Param
  | .string s => .text (if field = "id" then s else (Json.Value.string s).compact)
  | v => .text v.compact

/-- Only the id column holds texts as they are; all other fields are compared as JSON. -/
theorem encoded_of_ne {field : String} (h : field ≠ "id") (v : Json.Value) :
    encoded field v = .text v.compact := by
  cases v with
  | string s => rw [encoded, if_neg h]
  | null | boolean | number | array | object => rfl

mutual

/-- The values of a filter as they are bound, from left to right. -/
def params : Filter → List Sql.Param
  | .all => []
  | .eq field v => [encoded field v]
  | .range _ lower upper => lower.params ++ upper.params
  | .among field vs => vs.map (encoded field)
  | .and parts => paramsOfAll parts

/-- The values of several filters, one filter after the other. -/
def paramsOfAll : List Filter → List Sql.Param
  | [] => []
  | f :: fs => f.params ++ paramsOfAll fs

end

mutual

/-- A filter with other values in the place of its own. Two filters of one shape ask the same of
other data. -/
def shape : Filter → Filter
  | .all => .all
  | .eq field _ => .eq field (.string "")
  | .range field lower upper => .range field lower.shape upper.shape
  | .among field vs => .among field (vs.map fun _ => .string "")
  | .and parts => .and (shapeOfAll parts)

/-- The shapes of several filters. -/
def shapeOfAll : List Filter → List Filter
  | [] => []
  | f :: fs => f.shape :: shapeOfAll fs

end

/-- Every field has a name that can stand in a path. A name stands in the text itself, so this is
where a question mark could come from. -/
def Named (f : Filter) : Prop :=
  ∀ p ∈ f.leaves, ∀ field, p.field? = some field → Sql.isPlainName field = true

end Filter

namespace Sql

/-! ## Pieces

The text and the values of a statement are both read off its pieces. For lists of pieces in a row,
with separators, or within parentheses it is said what becomes of either. -/

/-- The values among some pieces, in the order in which they are bound. -/
def values (ps : List Piece) : List Param := ps.filterMap Piece.param?

/-- Nothing binds nothing; with the two lemmas after this one the values of any pieces can be
computed. -/
@[simp] theorem values_nil : values [] = [] := rfl

@[simp] theorem values_words (words : String) (ps : List Piece) :
    values (.words words :: ps) = values ps := rfl

@[simp] theorem values_append (ps qs : List Piece) : values (ps ++ qs) = values ps ++ values qs :=
  List.filterMap_append

/-- The texts of some pieces, those of slots included. Joined they are the text of the statement, so
pieces with the same texts make the same text. -/
def texts (ps : List Piece) : List String := ps.map Piece.text

@[simp] theorem texts_words (words : String) (ps : List Piece) :
    texts (.words words :: ps) = words :: texts ps := rfl

@[simp] theorem texts_slot (a : Param) (ps : List Piece) :
    texts (.slot a :: ps) = "?" :: texts ps := rfl

@[simp] theorem texts_append (ps qs : List Piece) : texts (ps ++ qs) = texts ps ++ texts qs :=
  List.map_append ..

/-- A piece that shows a question mark only if it is a slot. If all pieces are such, the marks of a
statement can be counted. -/
def Piece.Unmarked : Piece → Prop
  | .words s => '?' ∉ s.toList
  | .slot _ => True

instance : DecidablePred Piece.Unmarked
  | .words s => inferInstanceAs (Decidable ('?' ∉ s.toList))
  | .slot _ => inferInstanceAs (Decidable True)

/-- A slot may show a question mark, as it is one. -/
theorem unmarked_slot (a : Param) : ∀ p ∈ [Piece.slot a], p.Unmarked :=
  List.forall_mem_singleton.2 True.intro

/-- The text of a list is decided by the texts of its items, as the separators depend on their
number only. -/
theorem texts_joined (separator : String) {parts parts' : List (List Piece)}
    (h : parts.map texts = parts'.map texts) :
    texts (joined separator parts) = texts (joined separator parts') := by
  -- on the first list; the second one has as many items, as the texts are the same
  fun_induction joined separator parts generalizing parts' with
  | case1 =>
    obtain rfl := List.map_eq_nil_iff.1 h.symm
    rfl
  | case2 ps =>
    obtain ⟨ps', rest', rfl, hps, hrest⟩ := List.map_eq_cons_iff.1 h.symm
    obtain rfl := List.map_eq_nil_iff.1 hrest
    exact hps.symm
  | case3 ps rest hne ih =>
    -- the separator is written because more follows, and then more follows on the other side too
    obtain ⟨ps', rest', rfl, hps, hrest⟩ := List.map_eq_cons_iff.1 h.symm
    have hne' : rest' ≠ [] := by
      rintro rfl
      exact hne (List.map_eq_nil_iff.1 hrest.symm)
    have tail : texts (joined separator rest) = texts (joined separator rest') := ih hrest.symm
    rw [joined.eq_3 _ _ _ hne', texts_append, texts_append, texts_words, texts_words, hps, tail]

/-- A list has no question mark of its own if neither its items nor its separator have one. -/
theorem unmarked_joined {separator : String} (hs : '?' ∉ separator.toList)
    {parts : List (List Piece)} (h : ∀ ps ∈ parts, ∀ p ∈ ps, p.Unmarked) :
    ∀ p ∈ joined separator parts, p.Unmarked := by
  fun_induction joined separator parts with
  | case1 => exact List.forall_mem_nil _
  | case2 ps => exact h ps (List.mem_singleton_self ps)
  | case3 ps rest _ ih =>
    obtain ⟨hps, hrest⟩ := List.forall_mem_cons.1 h
    rw [List.forall_mem_append, List.forall_mem_cons]
    exact ⟨hps, hs, ih hrest⟩

/-- If no words have a question mark, the question marks of a text are its slots. So there are as
many of them as values. -/
theorem count_slots {ps : List Piece} (h : ∀ p ∈ ps, p.Unmarked) :
    (Statement.ofPieces ps).text.toList.count '?' = (values ps).length := by
  -- on the pieces: words add nothing to either side, a slot adds one to both
  induction ps with
  | nil => rfl
  | cons p ps ih =>
    obtain ⟨hp, hps⟩ := List.forall_mem_cons.1 h
    have text : (Statement.ofPieces (p :: ps)).text = p.text ++ (Statement.ofPieces ps).text :=
      String.join_cons ..
    rw [text, String.toList_append, List.count_append, ih hps]
    cases p with
    | words s =>
      rw [Piece.text, List.count_eq_zero.2 hp, Nat.zero_add]
      rfl
    | slot a =>
      rw [Piece.text, Nat.add_comm]
      rfl

theorem values_joined (separator : String) (cs : List Condition) :
    values (joined separator (Condition.piecesOfAll cs)) = cs.flatMap fun c => values c.pieces := by
  rw [values, params_joined, Condition.piecesOfAll_eq_map, List.flatMap_map]
  rfl

theorem values_all (cs : List Condition) :
    values (Condition.all cs).pieces = cs.flatMap fun c => values c.pieces := by
  rw [Condition.pieces, values_joined]

theorem values_any (cs : List Condition) :
    values (Condition.any cs).pieces = cs.flatMap fun c => values c.pieces := by
  rw [Condition.pieces, values_joined]

theorem values_group (c : Condition) : values (Condition.group c).pieces = values c.pieces := by
  rw [Condition.pieces, List.cons_append, values_words, values_append]
  exact List.append_nil _

/-- A comparison for equality binds its value as JSON. -/
theorem values_contains (field : String) (v : Json.Value) :
    values (Condition.contains field v).pieces = [.text v.compact] := rfl

/-- A choice of ids binds the ids themselves. -/
theorem values_idAmong (ids : List String) :
    values (Condition.idAmong ids).pieces = ids.map .text := by
  have slots : values (joined ", " (ids.map fun id => [.slot (.text id)])) = ids.map .text := by
    rw [values, params_joined, List.flatMap_map]
    exact List.flatMap_pure_eq_map ..
  rw [Condition.pieces, List.cons_append, values_words, values_append, slots]
  exact List.append_nil _

/-! ## The texts of conditions

Conditions of filters of one shape have the same texts, since only the values make a difference and
these are not part of the text. -/

/-- The text of conditions in a row is decided by the texts of the conditions. -/
theorem texts_conditions (separator : String) {cs cs' : List Condition}
    (h : cs.map (fun c => texts c.pieces) = cs'.map fun c => texts c.pieces) :
    texts (joined separator (Condition.piecesOfAll cs))
      = texts (joined separator (Condition.piecesOfAll cs')) := by
  simp only [Condition.piecesOfAll_eq_map]
  apply texts_joined
  rw [List.map_map, List.map_map]
  exact h

theorem texts_group {c c' : Condition} (h : texts c.pieces = texts c'.pieces) :
    texts (Condition.group c).pieces = texts (Condition.group c').pieces := by
  simp only [Condition.pieces, texts_append, texts_words, h]

/-- Of a choice of ids only their number shows in the text. -/
theorem texts_idAmong {ids ids' : List String} (h : ids.length = ids'.length) :
    texts (Condition.idAmong ids).pieces = texts (Condition.idAmong ids').pieces := by
  have slots : (ids.map fun id => [Piece.slot (.text id)]).map texts
      = (ids'.map fun id => [Piece.slot (.text id)]).map texts := by
    have each (id : String) : texts [Piece.slot (.text id)] = ["?"] := rfl
    simp only [List.map_map, Function.comp_def, each, List.map_const', h]
  simp only [Condition.pieces, texts_append, texts_words, texts_joined ", " slots]

/-! ## Conditions without other question marks

A question mark among the words would be taken for a slot. Words come from the program and from the
names of fields, and plain names have none. -/

theorem not_mark_of_plain {name : String} (h : isPlainName name = true) : '?' ∉ name.toList := by
  intro hmem
  have plain := List.all_eq_true.1 h '?' hmem
  exact absurd plain (by decide)

theorem not_mark_between {first name last : String} (hname : '?' ∉ name.toList)
    (hfirst : '?' ∉ first.toList) (hlast : '?' ∉ last.toList) :
    '?' ∉ (first ++ name ++ last).toList := by
  rw [String.toList_append, String.toList_append, List.mem_append, List.mem_append, not_or, not_or]
  exact ⟨⟨hfirst, hname⟩, hlast⟩

theorem not_mark_path {field : String} (h : isPlainName field = true) :
    '?' ∉ (fieldPath field).toList :=
  not_mark_between (not_mark_of_plain h) (by decide) (by decide)

/-- A comparison for equality has no question mark but its slot. The lemmas that follow say the same
of the other conditions. -/
theorem unmarked_contains {field : String} (h : isPlainName field = true) (v : Json.Value) :
    ∀ p ∈ (Condition.contains field v).pieces, p.Unmarked := by
  have path : '?' ∉ (", " ++ fieldPath field ++ ")").toList :=
    not_mark_between (not_mark_path h) (by decide) (by decide)
  simp only [Condition.pieces, List.forall_mem_cons]
  exact ⟨by decide, trivial, path, List.forall_mem_nil _⟩

/-- A comparison with a bound has no question mark but its slot. -/
theorem unmarked_compares {field : String} (h : isPlainName field = true)
    (comparison : Comparison) (n : Int64) :
    ∀ p ∈ (Condition.compares field comparison n).pieces, p.Unmarked := by
  have sign : '?' ∉ comparison.sign.toList := by cases comparison <;> decide
  have path : '?' ∉ ("CAST(JSON_EXTRACT(doc, " ++ fieldPath field ++ ") AS SIGNED) ").toList :=
    not_mark_between (not_mark_path h) (by decide) (by decide)
  have words : '?' ∉ ("CAST(JSON_EXTRACT(doc, " ++ fieldPath field ++ ") AS SIGNED) " ++
      comparison.sign ++ " ").toList := not_mark_between sign path (by decide)
  simp only [Condition.pieces, List.forall_mem_cons]
  exact ⟨words, trivial, List.forall_mem_nil _⟩

theorem unmarked_group {c : Condition} (h : ∀ p ∈ c.pieces, p.Unmarked) :
    ∀ p ∈ (Condition.group c).pieces, p.Unmarked := by
  simp only [Condition.pieces, List.forall_mem_append, List.forall_mem_cons]
  exact ⟨⟨by decide, h⟩, by decide, List.forall_mem_nil _⟩

/-- Conditions in a row have none if the conditions and the separator have none. -/
theorem unmarked_conditions {separator : String} (hs : '?' ∉ separator.toList)
    {cs : List Condition} (h : ∀ c ∈ cs, ∀ p ∈ c.pieces, p.Unmarked) :
    ∀ p ∈ joined separator (Condition.piecesOfAll cs), p.Unmarked := by
  rw [Condition.piecesOfAll_eq_map]
  exact unmarked_joined hs (List.forall_mem_map.2 h)

/-- A choice of ids has none but its slots. -/
theorem unmarked_idAmong (ids : List String) :
    ∀ p ∈ (Condition.idAmong ids).pieces, p.Unmarked := by
  have slots : ∀ ps ∈ ids.map (fun id => [Piece.slot (.text id)]), ∀ p ∈ ps, p.Unmarked :=
    List.forall_mem_map.2 fun id _ => unmarked_slot (.text id)
  simp only [Condition.pieces, List.forall_mem_append, List.forall_mem_cons]
  exact ⟨⟨by decide, unmarked_joined (by decide) slots⟩, by decide, List.forall_mem_nil _⟩

/-! ## The condition of a filter -/

/-- A condition that is put together from a filter: it binds the values of the filter, its text is
that of the shape of the filter, and it shows no other question marks than those of its slots. -/
structure Assembles (f : Filter) (c : Condition) : Prop where
  values : values c.pieces = f.params
  texts : ∃ b, conditionOf f.shape = .ok b ∧ texts b.pieces = texts c.pieces
  unmarked : f.Named → ∀ p ∈ c.pieces, p.Unmarked

theorem named_leaf {f : Filter} (hf : f.leaves = [f]) :
    f.Named ↔ ∀ field, f.field? = some field → isPlainName field = true := by
  rw [Filter.Named, hf, List.forall_mem_singleton]

/-- Equality is a comparison with the id column or with a field of the document. -/
theorem assembles_eq {field : String} {v : Json.Value} {c : Condition}
    (h : conditionOf (.eq field v) = .ok c) : Assembles (.eq field v) c := by
  rw [conditionOf] at h
  -- the id is a column of its own, so it is compared without a path
  split at h
  · next hid =>
    subst hid
    obtain ⟨s, hs, rfl⟩ := ok_of_map h
    cases v with
    | string s' =>
      obtain rfl := Except.ok.inj hs
      have bare : ∀ p ∈ (Condition.idIs s').pieces, p.Unmarked := by
        simp only [Condition.pieces, List.forall_mem_cons]
        exact ⟨by decide, trivial, List.forall_mem_nil _⟩
      exact ⟨rfl, ⟨.idIs "", rfl, rfl⟩, fun _ => bare⟩
    | null | boolean | number | array | object => cases hs
  · next hid =>
    obtain rfl := Except.ok.inj h
    have bound : values (Condition.contains field v).pieces = [Filter.encoded field v] := by
      rw [values_contains, Filter.encoded_of_ne hid]
    have shaped : conditionOf (.eq field (.string "")) = .ok (.contains field (.string "")) := by
      rw [conditionOf, if_neg hid]
    refine ⟨bound, ⟨_, shaped, rfl⟩, ?_⟩
    intro named
    exact unmarked_contains ((named_leaf rfl).1 named field rfl) v

theorem unmarked_comparisons {field : String} (h : isPlainName field = true) (lower upper : Bound) :
    ∀ c ∈ comparisons field lower upper, ∀ p ∈ c.pieces, p.Unmarked := by
  intro c hc
  obtain ⟨comparison, n, rfl⟩ := eq_compares_of_mem hc
  exact unmarked_compares h comparison n

/-- A range is one comparison for each of its bounds. A range without bounds is not the empty text
but the condition that always holds. -/
theorem assembles_range {field : String} {lower upper : Bound} {c : Condition}
    (h : conditionOf (.range field lower upper) = .ok c) :
    Assembles (.range field lower upper) c := by
  have bound : ((comparisons field lower upper).flatMap fun c => values c.pieces)
      = lower.params ++ upper.params := by
    cases lower <;> cases upper <;> rfl
  have shaped : (comparisons field lower.shape upper.shape).map (fun c => texts c.pieces)
      = (comparisons field lower upper).map fun c => texts c.pieces := by
    cases lower <;> cases upper <;> rfl
  by_cases hne : comparisons field lower upper = []
  · -- without a bound there is nothing to compare, and the shape has none either
    obtain ⟨rfl, rfl⟩ : lower = .unbounded ∧ upper = .unbounded := by
      cases lower <;> cases upper <;> simp_all [lowerComparison, upperComparison]
    obtain rfl := Except.ok.inj h
    exact ⟨rfl, ⟨.always, rfl, rfl⟩, fun _ => by decide⟩
  · have hne' : comparisons field lower.shape upper.shape ≠ [] := by
      intro none
      rw [none] at shaped
      exact hne (List.map_eq_nil_iff.1 shaped.symm)
    rw [conditionOf_range hne] at h
    obtain rfl := Except.ok.inj h
    refine ⟨?_, ⟨_, conditionOf_range hne', texts_conditions _ shaped⟩, ?_⟩
    · rw [values_all, bound]
      rfl
    · intro named
      have plain : isPlainName field = true := (named_leaf rfl).1 named field rfl
      exact unmarked_conditions (by decide) (unmarked_comparisons plain lower upper)

/-- Texts of ids come from values that are texts. -/
theorem eq_strings_of_idTexts {vs : List Json.Value} {ids : List String}
    (h : idTexts vs = .ok ids) : vs = ids.map .string := by
  have needs := needs_idTexts vs
  rw [h] at needs
  cases needs with
  | ok strings =>
    obtain ⟨ids', h', hvs⟩ := idTexts_of_strings strings
    obtain rfl := Except.ok.inj (h'.symm.trans h)
    exact hvs

/-- Texts are taken for ids as they are. -/
theorem idTexts_strings (ids : List String) : idTexts (ids.map .string) = .ok ids := by
  induction ids with
  | nil => rfl
  | cons id ids ih =>
    rw [List.map_cons, idTexts, ih]
    rfl

/-- A choice of ids is one condition on the id column. It is refused if one of the values is no
text. -/
theorem assembles_idAmong {vs : List Json.Value} {ids : List String} (hne : vs ≠ [])
    (h : idTexts vs = .ok ids) : Assembles (.among "id" vs) (.idAmong ids) := by
  obtain rfl := eq_strings_of_idTexts h
  have bound : values (Condition.idAmong ids).pieces
      = (ids.map Json.Value.string).map (Filter.encoded "id") := by
    rw [values_idAmong, List.map_map]
    rfl
  -- the values of the shape are texts again, so that it has a condition as well
  have blank : (Filter.among "id" (ids.map .string)).shape
      = .among "id" ((ids.map fun _ => "").map .string) := by
    rw [Filter.shape, List.map_map, List.map_map]
    rfl
  have shaped : conditionOf (Filter.among "id" (ids.map .string)).shape
      = .ok (.idAmong (ids.map fun _ => "")) := by
    rw [blank, conditionOf, if_pos rfl, idTexts_strings]
    · rfl
    · simpa using hne
  refine ⟨bound, ⟨_, shaped, texts_idAmong (List.length_map _)⟩, ?_⟩
  intro _
  exact unmarked_idAmong ids

/-- A choice is a disjunction, unless it is one of ids or has nothing to choose from. Each of the
three has a form of its own, so they are taken apart here. -/
theorem assembles_among {field : String} {vs : List Json.Value} {c : Condition}
    (h : conditionOf (.among field vs) = .ok c) : Assembles (.among field vs) c := by
  by_cases hne : vs = []
  · subst hne
    obtain rfl := Except.ok.inj h
    exact ⟨rfl, ⟨.never, rfl, rfl⟩, fun _ => by decide⟩
  by_cases hid : field = "id"
  · subst hid
    rw [conditionOf, if_pos rfl] at h
    · obtain ⟨ids, hids, rfl⟩ := ok_of_map h
      exact assembles_idAmong hne hids
    · exact hne
  · -- neither empty nor of ids: one test for each value, joined by OR
    have written {us : List Json.Value} (hus : us ≠ []) :
        conditionOf (.among field us) = .ok (.group (.any (us.map (.contains field)))) := by
      rw [conditionOf, if_neg hid]
      exact hus
    obtain rfl := Except.ok.inj ((written hne).symm.trans h)
    have bound : values (Condition.group (.any (vs.map (.contains field)))).pieces
        = vs.map (Filter.encoded field) := by
      have each (v : Json.Value) :
          values (Condition.contains field v).pieces = [Filter.encoded field v] := by
        rw [values_contains, Filter.encoded_of_ne hid]
      simp only [values_group, values_any, List.flatMap_map, each]
      exact List.flatMap_pure_eq_map ..
    have same : ((vs.map fun _ => Json.Value.string "").map (Condition.contains field)).map
          (fun c => texts c.pieces)
        = (vs.map (Condition.contains field)).map fun c => texts c.pieces := by
      rw [List.map_map, List.map_map, List.map_map]
      rfl
    refine ⟨bound, ⟨_, written (by simpa using hne), texts_group (texts_conditions _ same)⟩, ?_⟩
    intro named
    have plain : isPlainName field = true := (named_leaf rfl).1 named field rfl
    apply unmarked_group
    apply unmarked_conditions (by decide)
    rw [List.forall_mem_map]
    exact fun v _ => unmarked_contains plain v

/-- Parts that are put together one by one bind the values of the filters in order. -/
theorem values_of_forall₂ {fs : List Filter} {cs : List Condition}
    (h : List.Forall₂ Assembles fs cs) :
    (cs.flatMap fun c => values c.pieces) = Filter.paramsOfAll fs := by
  induction h with
  | nil => rfl
  | cons hf _ ih => rw [List.flatMap_cons, hf.values, ih, Filter.paramsOfAll]

/-- Parts that are put together one by one have the texts of the shapes of the filters. -/
theorem texts_of_forall₂ {fs : List Filter} {cs : List Condition}
    (h : List.Forall₂ Assembles fs cs) :
    ∃ bs, conditionsOf (Filter.shapeOfAll fs) = .ok bs ∧
      bs.map (fun c => texts c.pieces) = cs.map fun c => texts c.pieces := by
  induction h with
  | nil => exact ⟨[], rfl, rfl⟩
  | cons hf _ ih =>
    obtain ⟨b, hb, same⟩ := hf.texts
    obtain ⟨bs, hbs, all⟩ := ih
    refine ⟨b :: bs, ?_, ?_⟩
    · rw [Filter.shapeOfAll, conditionsOf, hb, hbs]
      rfl
    · rw [List.map_cons, List.map_cons, same, all]

/-- If the fields of a conjunction have plain names, so have those of each of its parts. -/
theorem unmarked_of_forall₂ {fs : List Filter} {cs : List Condition}
    (h : List.Forall₂ Assembles fs cs) (named : (Filter.and fs).Named) :
    ∀ c ∈ cs, ∀ p ∈ c.pieces, p.Unmarked := by
  induction h with
  | nil => exact List.forall_mem_nil _
  | cons hf _ ih =>
    have first := hf.unmarked fun p hp => named p (List.mem_append_left _ hp)
    have rest := ih fun p hp => named p (List.mem_append_right _ hp)
    exact List.forall_mem_cons.2 ⟨first, rest⟩

/-- A conjunction is put together from its parts, within parentheses. -/
theorem assembles_and {fs : List Filter} {cs : List Condition} (hne : fs ≠ [])
    (h : List.Forall₂ Assembles fs cs) : Assembles (.and fs) (.group (.all cs)) := by
  have written {gs : List Filter} {bs : List Condition} (hgs : gs ≠ [])
      (hbs : conditionsOf gs = .ok bs) : conditionOf (.and gs) = .ok (.group (.all bs)) := by
    rw [conditionOf, hbs]
    · rfl
    · exact hgs
  obtain ⟨bs, hbs, same⟩ := texts_of_forall₂ h
  have hne' : Filter.shapeOfAll fs ≠ [] := by
    cases fs with
    | nil => exact absurd rfl hne
    | cons f fs => exact List.cons_ne_nil _ _
  refine ⟨?_, ⟨_, written hne' hbs, texts_group (texts_conditions _ same)⟩, ?_⟩
  · rw [values_group, values_all, values_of_forall₂ h, Filter.params]
  · intro named
    apply unmarked_group
    exact unmarked_conditions (by decide) (unmarked_of_forall₂ h named)

mutual

/-- The condition of every filter is put together in this way. The proof follows the filter, with
the lemma of each kind. -/
theorem conditionOf_assembles : ∀ {f : Filter} {c : Condition}, conditionOf f = .ok c →
    Assembles f c
  | .all, c, h => by
    obtain rfl := Except.ok.inj h
    exact ⟨rfl, ⟨.always, rfl, rfl⟩, fun _ => by decide⟩
  | .eq .., c, h => assembles_eq h
  | .range .., c, h => assembles_range h
  | .among .., c, h => assembles_among h
  | .and [], c, h => by
    obtain rfl := Except.ok.inj h
    exact ⟨rfl, ⟨.always, rfl, rfl⟩, fun _ => by decide⟩
  | .and (f :: fs), c, h => by
    obtain ⟨cs, hcs, rfl⟩ := ok_of_map h
    exact assembles_and (List.cons_ne_nil f fs) (conditionsOf_assemble hcs)

/-- The conditions of several filters, one for each of them. The induction is over the filters of a
conjunction. -/
theorem conditionsOf_assemble : ∀ {fs : List Filter} {cs : List Condition},
    conditionsOf fs = .ok cs → List.Forall₂ Assembles fs cs
  | [], cs, h => by
    obtain rfl := Except.ok.inj h
    exact .nil
  | f :: fs, cs, h => by
    obtain ⟨c, hc, h⟩ := ok_of_bind h
    obtain ⟨cs, hcs, h⟩ := ok_of_bind h
    obtain rfl := Except.ok.inj h
    exact .cons (conditionOf_assembles hc) (conditionsOf_assemble hcs)

end

end Sql

end Telemetry
