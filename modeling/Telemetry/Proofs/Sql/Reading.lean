import Mathlib.Data.List.Infix
import Telemetry.Sql.Table

/-!
# Reading statements back

A statement is sent as a text with question marks and the list of the values they stand for. Here
such a statement is read again, from left to right: `Source` is what is left of it, and every
question mark takes the next value. `Source.before` puts pieces in front of what is left, and the
readers are shown to take back what has been put in front.

* `ofStatement_ofPieces` — a statement is its pieces in front of nothing.
* `word_put`, `param_put`, `name_put` — the readers of words, values and names.
* `separated_joined` — a list is read item by item if what follows it is not a separator.
-/

namespace Telemetry.Sql

/-- What is left of a statement that is being read: characters of the text and values. A question
mark takes one of each. -/
structure Source where
  text : List Char
  params : List Param

/-- Read something from a statement; the rest of the statement is left. A reader that does not find
what it looks for reads nothing. -/
abbrev Reader (α : Type) := Source → Option (α × Source)

namespace Source

/-- A statement before anything of it has been read. -/
def ofStatement (s : Statement) : Source := ⟨s.text.toList, s.params⟩

/-- Nothing is left, neither text nor values. A value that is left would have no place in the
statement. -/
def Finished (s : Source) : Prop := s.text = [] ∧ s.params = []

instance (s : Source) : Decidable s.Finished := inferInstanceAs (Decidable (_ ∧ _))

/-! ## Readers -/

/-- Pass over a given word. -/
def word (w : String) (s : Source) : Option Source :=
  (s.text.dropPrefix? w.toList).map fun text => { s with text := text }

/-- The value that a question mark stands for. -/
def param : Reader Param := fun s =>
  match s.text, s.params with
  | '?' :: text, p :: params => some (p, ⟨text, params⟩)
  | _, _ => none

/-- A text that a question mark stands for. -/
def textParam : Reader String := fun s =>
  match s.param with
  | some (.text t, s) => some (t, s)
  | _ => none

/-- A number that a question mark stands for. -/
def numberParam : Reader Int64 := fun s =>
  match s.param with
  | some (.integer n, s) => some (n, s)
  | _ => none

/-- The characters of names. -/
def isNameChar (c : Char) : Bool := c.isAlphanum || c == '_'

/-- The longest name at the beginning. -/
def name (s : Source) : String × Source :=
  (String.ofList (s.text.takeWhile isNameChar), { s with text := s.text.dropWhile isNameChar })

/-- The name of the field in a path. It ends at the quote, which no plain name contains. -/
def path : Reader String := fun s => do
  let s ← s.word "'$."
  let (field, s) := s.name
  let s ← s.word "'"
  return (field, s)

/-- Items with a separator between them, fewer than the given number. The reader of an item must not
take the separator for a part of it. -/
def separated {α : Type} (item : Reader α) (separator : String) : Nat → Reader (List α)
  | 0, _ => none
  | n + 1, s => do
    let (a, s) ← item s
    match s.word separator with
    | none => return ([a], s)
    | some s =>
      let (rest, s) ← separated item separator n s
      return (a :: rest, s)

/-! ## Pieces in front of a source -/

/-- A piece in front of what is left. Reading a piece is to give back what has been put. -/
def put (p : Piece) (s : Source) : Source :=
  match p with
  | .words w => { s with text := w.toList ++ s.text }
  | .slot v => ⟨'?' :: s.text, v :: s.params⟩

/-- Pieces in front of what is left. -/
def before (ps : List Piece) (s : Source) : Source := ps.foldr put s

/-- No pieces leave what is left; with the two lemmas after this one pieces are put in front one by
one. -/
@[simp] theorem before_nil (s : Source) : before [] s = s := rfl

@[simp] theorem before_cons (p : Piece) (ps : List Piece) (s : Source) :
    before (p :: ps) s = put p (before ps s) := rfl

@[simp] theorem before_append (ps qs : List Piece) (s : Source) :
    before (ps ++ qs) s = before ps (before qs s) := List.foldr_append ..

/-- A statement is its pieces in front of nothing. -/
theorem ofStatement_ofPieces (ps : List Piece) :
    ofStatement (.ofPieces ps) = before ps ⟨[], []⟩ := by
  induction ps with
  | nil => rfl
  | cons p ps ih =>
    rw [before_cons, ← ih]
    cases p <;>
      simp [ofStatement, Statement.ofPieces, put, Piece.text, Piece.param?, String.join_cons,
        List.filterMap_cons]

theorem length_put_words (w : String) (s : Source) :
    (put (.words w) s).text.length = w.toList.length + s.text.length := List.length_append

theorem length_put_slot (v : Param) (s : Source) :
    (put (.slot v) s).text.length = s.text.length + 1 := rfl

/-- Putting pieces in front never makes what is left shorter, which is what the reader's fuel is
counted by. -/
theorem length_before (ps : List Piece) (s : Source) :
    s.text.length ≤ (before ps s).text.length := by
  induction ps with
  | nil => exact Nat.le_refl _
  | cons p ps ih =>
    refine Nat.le_trans ih ?_
    cases p with
    | words w => exact Nat.le_trans (Nat.le_add_left ..) (Nat.le_of_eq (length_put_words ..).symm)
    | slot v => exact Nat.le_succ _

/-! ## Reading what has been put -/

variable (s : Source)

/-- A word that has been put in front is passed over. The lemmas after this one take back values,
names and paths in the same way. -/
@[simp] theorem word_put (w : String) : (put (.words w) s).word w = some s := by
  rw [word, put, List.dropPrefix?_append_of_beq _ BEq.rfl]
  rfl

@[simp] theorem param_put (v : Param) : (put (.slot v) s).param = some (v, s) := rfl

@[simp] theorem textParam_put (t : String) :
    (put (.slot (.text t)) s).textParam = some (t, s) := rfl

@[simp] theorem numberParam_put (n : Int64) :
    (put (.slot (.integer n)) s).numberParam = some (n, s) := rfl

theorem put_append (v w : String) :
    put (.words (v ++ w)) s = put (.words v) (put (.words w) s) := by
  simp [put]

/-- A name is read up to the first character that is in none. -/
theorem name_put {field : String} (hfield : isPlainName field = true)
    (hs : ∀ c, s.text.head? = some c → isNameChar c = false) :
    (put (.words field) s).name = (field, s) := by
  have chars : ∀ c ∈ field.toList, isNameChar c = true := List.all_eq_true.1 hfield
  -- the name ends where it was put, for what follows begins with another character
  have none_left : s.text.takeWhile isNameChar = [] ∧ s.text.dropWhile isNameChar = s.text := by
    cases htext : s.text with
    | nil => exact ⟨rfl, rfl⟩
    | cons c text =>
      have hc := hs c (by rw [htext]; rfl)
      simp [hc]
  rw [name, put, List.takeWhile_append_of_pos chars, List.dropWhile_append_of_pos chars,
    none_left.1, none_left.2, List.append_nil, String.ofList_toList]

/-- A path gives the name of its field back, for the name ends at the quote behind it. -/
@[simp] theorem path_put {field : String} (hfield : isPlainName field = true) :
    (put (.words (fieldPath field)) s).path = some (field, s) := by
  have quoted : ∀ c, (put (.words "'") s).text.head? = some c → isNameChar c = false := by
    intro c hc
    obtain rfl := Option.some.inj hc
    decide
  rw [fieldPath, put_append, put_append, path, word_put]
  simp only [Option.bind_eq_bind, Option.bind_some, name_put _ hfield quoted, word_put]
  rfl

/-- A list is read item by item. What follows an item is a separator or what follows the list, and
`Q` says what the reader of an item needs to know of it. -/
theorem separated_joined {α γ : Type} (item : Reader α) {separator : String} (Q : Source → Prop)
    {pieces : γ → List Piece} (value : γ → α) {N : Nat} (hseparator : separator.toList ≠ [])
    (hQ : ∀ s, Q (put (.words separator) s)) {cs : List γ} (hne : cs ≠ [])
    (hitem : ∀ c ∈ cs, ∀ s, Q s → (before (pieces c) s).text.length < N →
      item (before (pieces c) s) = some (value c, s))
    {s : Source} (hs : Q s) (hend : s.word separator = none) :
    ∀ n, (before (joined separator (cs.map pieces)) s).text.length < n → n ≤ N →
      separated item separator n (before (joined separator (cs.map pieces)) s)
        = some (cs.map value, s) := by
  induction cs with
  | nil => exact absurd rfl hne
  | cons c cs ih =>
    obtain ⟨hc, hcs⟩ := List.forall_mem_cons.1 hitem
    intro n hn hN
    cases n with
    | zero => exact absurd hn (Nat.not_lt_zero _)
    | succ n =>
      cases cs with
      | nil =>
        have one : before (joined separator ([c].map pieces)) s = before (pieces c) s := rfl
        rw [one] at hn ⊢
        rw [separated, hc s hs (Nat.lt_of_lt_of_le hn hN)]
        simp only [Option.bind_eq_bind, Option.bind_some, hend]
        rfl
      | cons c' cs =>
        -- the separator is not empty, so what is left is shorter
        have split : before (joined separator ((c :: c' :: cs).map pieces)) s
            = before (pieces c) (put (.words separator)
                (before (joined separator ((c' :: cs).map pieces)) s)) :=
          before_append ..
        rw [split] at hn ⊢
        have shorter := length_before (pieces c) (put (.words separator)
          (before (joined separator ((c' :: cs).map pieces)) s))
        have longer : 0 < separator.toList.length := List.length_pos_iff.2 hseparator
        have left : (before (joined separator ((c' :: cs).map pieces)) s).text.length < n := by
          rw [length_put_words] at shorter
          omega
        have rest := ih (List.cons_ne_nil c' cs) hcs n left (by omega)
        rw [separated, hc _ (hQ _) (Nat.lt_of_lt_of_le hn hN)]
        simp only [Option.bind_eq_bind, Option.bind_some, word_put, rest]
        rfl

end Source

end Telemetry.Sql
