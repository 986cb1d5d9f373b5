import Telemetry.Json.Value
import Telemetry.Toml.Tree

/-!
# TOML trees as JSON values

Strings, whole numbers, truth values, arrays and tables are the same in both. What JSON does not
have becomes an object that names it, so that no value of another kind is taken for it.
-/

namespace Telemetry.Toml

mutual

/-- The value of a tree as JSON has it. A whole number is always in the range of signed words here,
for the reader takes no other. -/
def Tree.toJson : Tree → Json.Value
  | .string s => .string s
  | .integer n =>
    match Json.Whole.ofInt? n with
    | some w => .number (.whole w)
    | none => .object [("integer", .string (toString n))]
  | .float text => .object [("float", .string text)]
  | .boolean b => .boolean b
  | .moment text => .object [("moment", .string text)]
  | .array items => .array (itemsToJson items)
  | .table _ entries => .object (entriesToJson entries)
  | .tables before last => .array (tablesToJson before ++ [.object (entriesToJson last)])

/-- The items of an array, in order. -/
def itemsToJson : List Tree → List Json.Value
  | [] => []
  | t :: ts => t.toJson :: itemsToJson ts

/-- The entries of a table, in the order of the document. -/
def entriesToJson : List (String × Tree) → List (String × Json.Value)
  | [] => []
  | e :: es => entryToJson e :: entriesToJson es

/-- One entry, under its own key. -/
def entryToJson : String × Tree → String × Json.Value
  | (key, t) => (key, t.toJson)

/-- The tables of an array of tables that are no longer open. -/
def tablesToJson : List (List (String × Tree)) → List Json.Value
  | [] => []
  | es :: rest => .object (entriesToJson es) :: tablesToJson rest

end

end Telemetry.Toml
