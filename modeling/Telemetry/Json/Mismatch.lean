import Telemetry.Json.Value
import Telemetry.Text.Quoted

/-!
# Values of another shape than the one wanted

A mismatch says what was found and what was expected.
-/

namespace Telemetry.Json

/-- Why a value is not one of the wanted kind: what was found, and what was expected in its place.
-/
inductive Mismatch where
  /-- a value of another kind -/
  | kind (found : Value) (expected : String)
  /-- a whole number outside the range -/
  | range (found : Whole) (expected : String)
  /-- a field that must be there is not -/
  | missing (field : String)
  /-- a text that is no object id -/
  | objectId (text : String)
  /-- an array that ends before a position that has no default -/
  | short (length : Nat) (expected : String)
  /-- an array that goes on after the last position -/
  | long (length : Nat)

/-- What a message calls a value of the wrong kind. Only simple values are shown; of an array or an
object no more than the kind is told. -/
def Value.described : Value → String
  | .null => "null"
  | .boolean b => "boolean `" ++ (if b then "true" else "false") ++ "`"
  | .number (.whole n) => "integer `" ++ n.text ++ "`"
  | .number (.real x) => "floating point `" ++ (Number.real x).text ++ "`"
  | .string s => "string " ++ Text.quoted s
  | .array _ => "sequence"
  | .object _ => "map"

namespace Mismatch

/-- The mismatch as it is shown. The expectation is that of the decoder that was met, and does not
name the field. -/
def message : Mismatch → String
  | kind v expected => "invalid type: " ++ v.described ++ ", expected " ++ expected
  | range n expected => "invalid value: integer `" ++ n.text ++ "`, expected " ++ expected
  | missing field => "missing field `" ++ field ++ "`"
  | objectId s => "invalid object id: " ++ Text.quoted s
  | short length expected => "invalid length " ++ toString length ++ ", expected " ++ expected
  | long length => "invalid length " ++ toString length ++ ", expected fewer elements in array"

end Mismatch

end Telemetry.Json
