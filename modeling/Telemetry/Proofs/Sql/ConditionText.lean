import Telemetry.Proofs.Sql.Reading

/-!
# Reading the text of a condition

A condition is sent as text. Here the text is read as SQL reads it: `AND` binds tighter than `OR`,
parentheses group, and every question mark takes the next value. What has been read is a test of
rows.

The values that fields are compared with are sent as JSON texts, and it is the server that reads
these; `json` stands for its reader.

* `readCondition` — the test that a text with its values is.
* `Condition.test` — what a condition tests that is not yet written as text.
* `FactorReads`, `TermReads`, `ExpressionReads` — which conditions are read as what they test, and
  as which part of a text: there is one rule for each kind of condition. A comparison can stand
  beside `AND` without parentheses, and so can conditions joined by `AND`, but not by `OR`.
* `ExpressionReads.readCondition` — such a condition is read as what it tests.
-/

namespace Telemetry

/-- The whole number that a value is. -/
def Json.Value.whole? : Json.Value → Option Int
  | .number (.whole n) => some n.value
  | _ => none

namespace Sql

open Source

/-! ## Tests of rows -/

/-- A row of a table: the id column and the document. The two need not agree on the id. -/
structure Entry where
  id : String
  doc : Document

/-- What a condition says of rows. The reader makes one from the text and the values of a condition,
and a filter makes one of its own. -/
abbrev Test := Entry → Bool

/-- What a comparison says of two whole numbers, the stored one first. -/
def Comparison.test : Comparison → Int → Int → Bool
  | atLeast, a, b => b ≤ a
  | above, a, b => b < a
  | atMost, a, b => a ≤ b
  | below, a, b => a < b

namespace Test

/-- The field is there, and it has the value or is an array that has it as an item. A missing field
passes no such test. -/
def contains (field : String) (v : Json.Value) : Test := fun e =>
  match e.doc.get? field with
  | none => false
  | some (.array items) => (Json.Value.array items).same v || items.any fun item => item.same v
  | some stored => stored.same v

/-- The field is a whole number that compares with `n`. -/
def compares (field : String) (comparison : Comparison) (n : Int64) : Test := fun e =>
  ((e.doc.get? field).bind Json.Value.whole?).any fun i => comparison.test i n.toInt

/-- The row has one of the ids. This looks at the column, not at the document. -/
def idAmong (ids : List String) : Test := fun e => ids.contains e.id

/-- All of some tests. Without any it always holds. -/
def allOf (tests : List Test) : Test := fun e => tests.all fun test => test e

/-- One of some tests at least. Without any it never holds. -/
def anyOf (tests : List Test) : Test := fun e => tests.any fun test => test e

@[simp] theorem allOf_singleton (test : Test) : allOf [test] = test :=
  funext fun _ => Bool.and_true _

@[simp] theorem anyOf_singleton (test : Test) : anyOf [test] = test :=
  funext fun _ => Bool.or_false _

end Test

/-! ## Reading conditions

The reader knows the grammar of conditions and nothing of filters. It takes its values one by one as
it meets their question marks, so a value in the wrong place would change the meaning. -/

section

variable (json : String → Option Json.Value)

/-- Read a test for containment. The value is bound as JSON text and has to be read by the server.
-/
def readContains : Reader Test := fun s => do
  let s ← s.word "JSON_CONTAINS(doc, "
  let (text, s) ← s.textParam
  let v ← json text
  let s ← s.word ", "
  let (field, s) ← s.path
  let s ← s.word ")"
  return (Test.contains field v, s)

/-- Read the sign of a comparison and the blank after it. The blank is needed: two of the signs
begin like others. -/
def readComparison : Reader Comparison := fun s =>
  [Comparison.atLeast, .above, .atMost, .below].findSome? fun comparison =>
    ((s.word comparison.sign).bind (word " ")).map fun s => (comparison, s)

/-- Read a comparison of a field with a number. -/
def readCompares : Reader Test := fun s => do
  let s ← s.word "CAST(JSON_EXTRACT(doc, "
  let (field, s) ← s.path
  let s ← s.word ") AS SIGNED) "
  let (comparison, s) ← readComparison s
  let (n, s) ← s.numberParam
  return (Test.compares field comparison n, s)

/-- Read a comparison with an id. -/
def readIdIs : Reader Test := fun s => do
  let s ← s.word "id = "
  let (id, s) ← s.textParam
  return (Test.idAmong [id], s)

/-- Read a choice of ids, which are fewer than the given number. The number only keeps the reading
finite. -/
def readIdAmong (n : Nat) : Reader Test := fun s => do
  let s ← s.word "id IN ("
  let (ids, s) ← separated textParam ", " n s
  let s ← s.word ")"
  return (Test.idAmong ids, s)

/-- Read a condition that always or never holds. -/
def readConstant (word : String) (b : Bool) : Reader Test := fun s => do
  let s ← s.word word
  return (fun _ => b, s)

/-- A condition without `AND`, `OR` and parentheses. -/
def readAtom (n : Nat) : Reader Test := fun s =>
  readConstant "TRUE" true s <|> readConstant "FALSE" false s <|> readIdIs s <|> readIdAmong n s <|>
    readContains json s <|> readCompares s

/-- Factors joined by `AND`. -/
def readTerm (factor : Reader Test) (n : Nat) : Reader Test := fun s => do
  let (tests, s) ← separated factor " AND " n s
  return (Test.allOf tests, s)

/-- Terms joined by `OR`. -/
def readExpression (factor : Reader Test) (n : Nat) : Reader Test := fun s => do
  let (tests, s) ← separated (readTerm factor n) " OR " n s
  return (Test.anyOf tests, s)

/-- An expression in parentheses, or an atom. The text must be shorter than the given number, which
is enough for every nesting. -/
def readFactor : Nat → Reader Test
  | 0, _ => none
  | n + 1, s =>
    match s.word "(" with
    | some s => do
      let (test, s) ← readExpression (readFactor n) n s
      let s ← s.word ")"
      return (test, s)
    | none => readAtom json n s

/-- The test that a condition is, from its text and its values. All of both must be used, so nothing
that is sent is left without a meaning. -/
def readCondition (condition : Statement) : Option Test := do
  let n := condition.text.toList.length + 1
  let (test, s) ← readExpression (readFactor json n) n (ofStatement condition)
  if s.Finished then some test else none

end

/-! ## Conditions as tests -/

mutual

/-- What a condition tests. Parentheses change nothing here, for the condition is already a tree. -/
def Condition.test : Condition → Test
  | .always => fun _ => true
  | .never => fun _ => false
  | .idIs id => Test.idAmong [id]
  | .idAmong ids => Test.idAmong ids
  | .contains field v => Test.contains field v
  | .compares field comparison n => Test.compares field comparison n
  | .all parts => Test.allOf (Condition.tests parts)
  | .any parts => Test.anyOf (Condition.tests parts)
  | .group c => c.test

/-- What several conditions test. -/
def Condition.tests : List Condition → List Test
  | [] => []
  | c :: cs => c.test :: Condition.tests cs

end

namespace Condition

theorem tests_eq_map (cs : List Condition) : tests cs = cs.map test := by
  induction cs with
  | nil => rfl
  | cons c cs ih => rw [tests, ih, List.map_cons]

@[simp] theorem test_group (c : Condition) : (group c).test = c.test := by rw [test]

theorem test_all (parts : List Condition) (e : Entry) :
    (all parts).test e = parts.all fun c => c.test e := by
  rw [test, tests_eq_map, Test.allOf, List.all_map]
  rfl

theorem test_any (parts : List Condition) (e : Entry) :
    (any parts).test e = parts.any fun c => c.test e := by
  rw [test, tests_eq_map, Test.anyOf, List.any_map]
  rfl

end Condition

/-! ## Reading the text of a condition -/

section

variable (json : String → Option Json.Value)

/-- A condition is read as a factor, whatever follows it. A factor needs no look at the text behind
it. -/
def FactorReads (c : Condition) : Prop :=
  ∀ n s, (before c.pieces s).text.length < n →
    readFactor json n (before c.pieces s) = some (c.test, s)

/-- Pieces are factors joined by `AND`, and a test says that all of them hold. A condition of
several comparisons is read in this way although it has no parentheses. -/
def Conjunction (ps : List Piece) (test : Test) : Prop :=
  ∃ factors, factors ≠ [] ∧ ps = joined " AND " (factors.map Condition.pieces) ∧
    (∀ f ∈ factors, FactorReads json f) ∧ test = Test.allOf (factors.map Condition.test)

/-- A condition is read as a term. -/
def TermReads (c : Condition) : Prop := Conjunction json c.pieces c.test

/-- A condition is read as an expression: it is made of terms joined by `OR`. Every condition is of
this kind; some are terms and some are factors as well. -/
def ExpressionReads (c : Condition) : Prop :=
  ∃ terms, terms ≠ [] ∧ c.pieces = joined " OR " (terms.map Condition.pieces) ∧
    (∀ t ∈ terms, TermReads json t) ∧ c.test = Test.anyOf (terms.map Condition.test)

variable {json} {c : Condition} {s : Source} {n N : Nat}

/-- A term ends where no further `AND` follows. What follows it is left to whoever reads the
expression. -/
theorem TermReads.read (hc : TermReads json c) (hs : s.word " AND " = none)
    (hn : (before c.pieces s).text.length < n) :
    readTerm (readFactor json n) n (before c.pieces s) = some (c.test, s) := by
  obtain ⟨factors, hne, hpieces, hfactors, htest⟩ := hc
  rw [hpieces] at hn ⊢
  have read := separated_joined (readFactor json n) (fun _ => True) Condition.test (by decide)
    (fun _ => trivial) hne (fun f hf s _ => hfactors f hf n s) trivial hs n hn (Nat.le_refl n)
  rw [readTerm, read, htest]
  rfl

/-- An expression ends where neither `AND` nor `OR` follows, as at the end of a statement or at a
closing parenthesis. -/
theorem ExpressionReads.read (hc : ExpressionReads json c) (hand : s.word " AND " = none)
    (hor : s.word " OR " = none) (hn : (before c.pieces s).text.length < n) :
    readExpression (readFactor json n) n (before c.pieces s) = some (c.test, s) := by
  obtain ⟨terms, hne, hpieces, hterms, htest⟩ := hc
  rw [hpieces] at hn ⊢
  have read := separated_joined (readTerm (readFactor json n) n)
    (fun s => s.word " AND " = none) Condition.test (by decide) (fun _ => rfl) hne
    (fun t ht s hs hlen => (hterms t ht).read hs hlen) hand hor n hn (Nat.le_refl n)
  rw [readExpression, read, htest]
  rfl

/-- An expression becomes a factor by its parentheses. Here the reader calls itself, on a shorter
text. -/
theorem FactorReads.group (hc : ExpressionReads json c) : FactorReads json (.group c) := by
  intro n s hn
  have open_close : before (Condition.group c).pieces s
      = put (.words "(") (before c.pieces (put (.words ")") s)) := before_append ..
  rw [open_close] at hn ⊢
  cases n with
  | zero => exact absurd hn (Nat.not_lt_zero _)
  | succ n =>
    -- the parenthesis is a character of its own, so the rest can be read with one step less
    have shorter : (before c.pieces (put (.words ")") s)).text.length < n := by
      rw [length_put_words] at hn
      have : "(".toList.length = 1 := rfl
      omega
    have inner := hc.read (s := put (.words ")") s) rfl rfl shorter
    rw [readFactor, word_put]
    simp only [inner, word_put, Option.bind_eq_bind, Option.bind_some]
    rfl

/-- An atom is read as a factor if it is read as an atom. It must not begin with a parenthesis,
which would be taken for a group. -/
theorem FactorReads.atom (hopen : ∀ s, (before c.pieces s).word "(" = none)
    (hc : ∀ n s, (before c.pieces s).text.length ≤ n →
      readAtom json n (before c.pieces s) = some (c.test, s)) : FactorReads json c := by
  intro n s hn
  cases n with
  | zero => exact absurd hn (Nat.not_lt_zero _)
  | succ n =>
    rw [readFactor, hopen]
    exact hc n s (Nat.le_of_lt_succ hn)

theorem FactorReads.always : FactorReads json .always :=
  .atom (fun _ => rfl) fun _ s _ => by
    change (readConstant "TRUE" true (put (.words "TRUE") s) <|> _) = _
    rw [readConstant, word_put]
    rfl

theorem FactorReads.never : FactorReads json .never :=
  .atom (fun _ => rfl) fun _ s _ => by
    change (readConstant "FALSE" false (put (.words "FALSE") s) <|> _) = _
    rw [readConstant, word_put]
    rfl

/-- A comparison with an id is read back. It is told from the constants by its first letter. -/
theorem FactorReads.idIs (id : String) : FactorReads json (.idIs id) :=
  .atom (fun _ => rfl) fun n s _ => by
    have read : readIdIs (before (Condition.idIs id).pieces s) = some (Test.idAmong [id], s) := by
      rw [readIdIs, Condition.pieces, before_cons, word_put]
      rfl
    have notTrue : readConstant "TRUE" true (before (Condition.idIs id).pieces s) = none := rfl
    have notFalse : readConstant "FALSE" false (before (Condition.idIs id).pieces s) = none := rfl
    rw [readAtom, notTrue, notFalse, read]
    rfl

/-- A choice of ids is read back, unless it is empty. An empty one is never written: it would not be
a condition for the server. -/
theorem FactorReads.idAmong {ids : List String} (hids : ids ≠ []) :
    FactorReads json (.idAmong ids) :=
  .atom (fun _ => rfl) fun n s hn => by
    let listed := joined ", " (ids.map fun id => [Piece.slot (.text id)])
    have opened : before (Condition.idAmong ids).pieces s
        = put (.words "id IN (") (before listed (put (.words ")") s)) := before_append ..
    rw [opened] at hn ⊢
    have shorter : (before listed (put (.words ")") s)).text.length < n := by
      rw [length_put_words] at hn
      have : "id IN (".toList.length = 7 := rfl
      omega
    have read : separated textParam ", " n (before listed (put (.words ")") s))
        = some (ids.map id, put (.words ")") s) :=
      separated_joined textParam (fun _ => True) id (by decide) (fun _ => trivial) hids
        (fun _ _ _ _ _ => rfl) trivial rfl n shorter (Nat.le_refl n)
    change (readIdAmong n _ <|> _) = _
    rw [readIdAmong, word_put]
    simp only [Option.bind_eq_bind, Option.bind_some]
    rw [read]
    simp only [Option.bind_some, word_put, List.map_id_fun, id_eq]
    rfl

/-- A test for containment is read back if the server reads the value as it is meant. -/
theorem FactorReads.contains {field : String} {v : Json.Value}
    (hfield : isPlainName field = true) (hv : json v.compact = some v) :
    FactorReads json (.contains field v) :=
  .atom (fun _ => rfl) fun n s _ => by
    have pieces : before (Condition.contains field v).pieces s
        = put (.words "JSON_CONTAINS(doc, ") (put (.slot (.text v.compact))
            (put (.words ", ") (put (.words (fieldPath field)) (put (.words ")") s)))) := by
      rw [Condition.pieces, before_cons, before_cons, before_cons, before_nil, put_append,
        put_append]
    rw [pieces]
    change (readContains json _ <|> _) = _
    rw [readContains, word_put]
    simp only [Option.bind_eq_bind, Option.bind_some, textParam_put, hv, word_put,
      path_put _ hfield]
    rfl

/-- No sign is taken for another, although two of them begin like others. -/
theorem word_sign (a b : Comparison) (s : Source) :
    ((put (.words b.sign) (put (.words " ") s)).word a.sign).bind (word " ")
      = if a = b then some s else none := by
  by_cases h : a = b
  · subst h
    simp
  · rw [if_neg h]
    cases a <;> cases b <;> first | rfl | exact absurd rfl h

theorem readComparison_put (comparison : Comparison) (s : Source) :
    readComparison (put (.words comparison.sign) (put (.words " ") s)) = some (comparison, s) := by
  cases comparison <;> simp [readComparison, word_sign]

/-- A comparison with a number is read back. -/
theorem FactorReads.compares {field : String} (hfield : isPlainName field = true)
    (comparison : Comparison) (n : Int64) : FactorReads json (.compares field comparison n) := by
  have pieces (s : Source) : before (Condition.compares field comparison n).pieces s
      = put (.words "CAST(JSON_EXTRACT(doc, ") (put (.words (fieldPath field))
          (put (.words ") AS SIGNED) ") (put (.words comparison.sign) (put (.words " ")
            (put (.slot (.integer n)) s))))) := by
    rw [Condition.pieces, before_cons, before_cons, before_nil, put_append, put_append,
      put_append, put_append]
  refine .atom (fun s => ?_) fun _ s _ => ?_
  · rw [pieces]
    rfl
  · rw [pieces]
    change readCompares _ = _
    rw [readCompares, word_put]
    simp only [Option.bind_eq_bind, Option.bind_some, path_put _ hfield, word_put,
      readComparison_put, numberParam_put]
    rfl

/-- Two lists that are not empty are joined with one separator between them. An empty one would
leave a separator that joins nothing. -/
theorem joined_append (separator : String) {ps qs : List (List Piece)} (hp : ps ≠ [])
    (hq : qs ≠ []) :
    joined separator (ps ++ qs) = joined separator ps ++ .words separator :: joined separator qs := by
  obtain ⟨q, qs, rfl⟩ := List.exists_cons_of_ne_nil hq
  -- on the first list; the second one is not touched
  induction ps with
  | nil => exact absurd rfl hp
  | cons p ps ih =>
    cases ps with
    | nil => rfl
    | cons p' ps =>
      have rest := ih (List.cons_ne_nil p' ps)
      change p ++ .words separator :: joined separator (p' :: ps ++ q :: qs)
        = p ++ .words separator :: joined separator (p' :: ps) ++ _
      rw [rest, List.append_assoc, List.cons_append]

theorem TermReads.factor (hc : FactorReads json c) : TermReads json c :=
  ⟨[c], List.cons_ne_nil c [], rfl, List.forall_mem_singleton.2 hc, (Test.allOf_singleton _).symm⟩

/-- Conjunctions on both sides of an `AND` are one conjunction, for `AND` has no order of its own.
-/
theorem Conjunction.append {ps qs : List Piece} {t u : Test} (hp : Conjunction json ps t)
    (hq : Conjunction json qs u) :
    Conjunction json (ps ++ .words " AND " :: qs) fun e => t e && u e := by
  obtain ⟨factors, hfactors, rfl, hreads, rfl⟩ := hp
  obtain ⟨more, hmore, rfl, hreads', rfl⟩ := hq
  refine ⟨factors ++ more, List.append_ne_nil_of_left_ne_nil hfactors more, ?_, ?_, ?_⟩
  · rw [List.map_append, joined_append _ (by simpa using hfactors) (by simpa using hmore)]
  · exact List.forall_mem_append.2 ⟨hreads, hreads'⟩
  · funext e
    rw [Test.allOf, Test.allOf, Test.allOf, List.map_append, List.all_append]

/-- Terms joined by `AND` are a term: all their factors are joined by `AND`. -/
theorem TermReads.all {parts : List Condition} (hne : parts ≠ [])
    (hparts : ∀ p ∈ parts, TermReads json p) : TermReads json (.all parts) := by
  rw [TermReads, Condition.pieces, Condition.piecesOfAll_eq_map, Condition.test,
    Condition.tests_eq_map]
  induction parts with
  | nil => exact absurd rfl hne
  | cons p parts ih =>
    obtain ⟨hp, hparts⟩ := List.forall_mem_cons.1 hparts
    cases parts with
    | nil =>
      rw [List.map_singleton, List.map_singleton, Test.allOf_singleton]
      exact hp
    | cons q parts => exact hp.append (ih (List.cons_ne_nil q parts) hparts)

theorem ExpressionReads.term (hc : TermReads json c) : ExpressionReads json c :=
  ⟨[c], List.cons_ne_nil c [], rfl, List.forall_mem_singleton.2 hc, (Test.anyOf_singleton _).symm⟩

/-- Terms joined by `OR` are an expression. They cannot be factors of a term without parentheses. -/
theorem ExpressionReads.any {parts : List Condition} (hne : parts ≠ [])
    (hparts : ∀ p ∈ parts, TermReads json p) : ExpressionReads json (.any parts) := by
  refine ⟨parts, hne, ?_, hparts, ?_⟩
  · rw [Condition.pieces, Condition.piecesOfAll_eq_map]
  · rw [Condition.test, Condition.tests_eq_map]

/-- A condition that is a statement by itself is read as what it tests. -/
theorem ExpressionReads.readCondition (hc : ExpressionReads json c) :
    readCondition json (.ofPieces c.pieces) = some c.test := by
  have whole : ofStatement (.ofPieces c.pieces) = before c.pieces ⟨[], []⟩ :=
    ofStatement_ofPieces c.pieces
  have text : (Statement.ofPieces c.pieces).text.toList = (before c.pieces ⟨[], []⟩).text :=
    congrArg Source.text whole
  have read := hc.read (s := ⟨[], []⟩) rfl rfl (Nat.lt_succ_self _)
  rw [Sql.readCondition, whole, text]
  simp only [read, Option.bind_eq_bind, Option.bind_some]
  rfl

end

end Sql

end Telemetry
