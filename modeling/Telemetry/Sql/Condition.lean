import Telemetry.Filter
import Telemetry.Sql.Statement
import Telemetry.StoreError

/-!
# Conditions of statements

A filter becomes a condition on the rows of a table. The id of a document is a column of its own;
other fields are looked up in the text of the document.

* A range is written as one or two comparisons joined by `AND`, without parentheses.
* A choice among values is a disjunction in parentheses, and a conjunction of filters has
  parentheses around it.
-/

namespace Telemetry.Sql

/-- How a field is compared with a number: from below or from above, with the bound itself or
without it. A range is made of at most two of these. -/
inductive Comparison where
  | atLeast
  | above
  | atMost
  | below
deriving DecidableEq

/-- The sign of a comparison in a statement. -/
def Comparison.sign : Comparison → String
  | atLeast => ">="
  | above => ">"
  | atMost => "<="
  | below => "<"

/-- The condition of a statement. It says what the text will say, parentheses included, so that a
reader of the text has something to agree with. A filter has fewer kinds than this, since the id is
a column of its own and a range is written as separate comparisons. -/
inductive Condition where
  | always
  | never
  /-- the id is a given text -/
  | idIs (id : String)
  /-- the id is one of the given texts -/
  | idAmong (ids : List String)
  /-- the field has the value, or is an array that has it as an item -/
  | contains (field : String) (value : Json.Value)
  /-- the field is a number that compares with `n` -/
  | compares (field : String) (comparison : Comparison) (n : Int64)
  /-- every part holds -/
  | all (parts : List Condition)
  /-- some part holds -/
  | any (parts : List Condition)
  /-- a condition in parentheses -/
  | group (c : Condition)

/-- The path of a field in the text of a document. The name becomes part of the statement, so it
must not come from outside: the fields of filters are named by the program, and those of updates are
checked first. -/
def fieldPath (field : String) : String := "'$." ++ field ++ "'"

namespace Condition

mutual

/-- The pieces of a condition: its words, and a slot for every value in the order in which they are
read. -/
def pieces : Condition → List Piece
  | always => [.words "TRUE"]
  | never => [.words "FALSE"]
  | idIs id => [.words "id = ", .slot (.text id)]
  | idAmong ids =>
    .words "id IN (" :: joined ", " (ids.map fun id => [.slot (.text id)]) ++ [.words ")"]
  | contains field v =>
    [.words "JSON_CONTAINS(doc, ", .slot (.text v.compact), .words (", " ++ fieldPath field ++ ")")]
  | compares field comparison n =>
    [.words ("CAST(JSON_EXTRACT(doc, " ++ fieldPath field ++ ") AS SIGNED) " ++ comparison.sign ++
      " "), .slot (.integer n)]
  | all parts => joined " AND " (piecesOfAll parts)
  | any parts => joined " OR " (piecesOfAll parts)
  | group c => .words "(" :: pieces c ++ [.words ")"]

/-- The pieces of some conditions, each on its own, before a separator is put between them. -/
def piecesOfAll : List Condition → List (List Piece)
  | [] => []
  | c :: cs => pieces c :: piecesOfAll cs

end

/-- Conditions are written one by one. The recursion is spelled out only because it goes through a
list. -/
theorem piecesOfAll_eq_map (cs : List Condition) : piecesOfAll cs = cs.map pieces := by
  induction cs with
  | nil => rfl
  | cons c cs ih => rw [piecesOfAll, ih, List.map_cons]

end Condition

/-- The comparison a lower bound makes; none if everything is above it. A missing comparison is not
the same as one that always holds: it adds nothing to the text. -/
def lowerComparison (field : String) : Bound → List Condition
  | .included n => [.compares field .atLeast n]
  | .excluded n => [.compares field .above n]
  | .unbounded => []

/-- The comparison an upper bound makes; none if everything is below it. -/
def upperComparison (field : String) : Bound → List Condition
  | .included n => [.compares field .atMost n]
  | .excluded n => [.compares field .below n]
  | .unbounded => []

/-- The text of an id in a filter. The column of the ids holds texts, so no other value can be
compared with it, and the filter is refused before anything is sent. -/
def idText : Json.Value → Except StoreError String
  | .string s => .ok s
  | v => .error (.unexpected (.idFilter v))

/-- The texts of ids, up to the first value that is no text. One such value is enough to refuse the
whole choice. -/
def idTexts : List Json.Value → Except StoreError (List String)
  | [] => .ok []
  | v :: vs => do
    let s ← idText v
    let ss ← idTexts vs
    return s :: ss

mutual

/-- The condition of a filter. An empty choice holds for nothing and an empty conjunction for
everything, as they do of documents. The parentheses are put where a disjunction or a conjunction
could otherwise be read together with what stands around it. -/
def conditionOf : Filter → Except StoreError Condition
  | .all => .ok .always
  | .eq field value =>
    if field = "id" then (idText value).map .idIs else .ok (.contains field value)
  | .range field lower upper =>
    match lowerComparison field lower ++ upperComparison field upper with
    | [] => .ok .always
    | parts => .ok (.all parts)
  | .among _ [] => .ok .never
  | .among field values =>
    if field = "id" then (idTexts values).map .idAmong
    else .ok (.group (.any (values.map (.contains field))))
  | .and [] => .ok .always
  | .and parts => (conditionsOf parts).map fun cs => .group (.all cs)

/-- The conditions of some filters, up to the first that has none: a conjunction is refused with the
error of its first part that cannot be written. -/
def conditionsOf : List Filter → Except StoreError (List Condition)
  | [] => .ok []
  | f :: fs => do
    let c ← conditionOf f
    let cs ← conditionsOf fs
    return c :: cs

end

end Telemetry.Sql
