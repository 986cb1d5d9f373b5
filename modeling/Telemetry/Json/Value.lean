import Telemetry.OrderedMap
import Telemetry.Decimal.Style

/-!
# JSON values

Numbers keep the distinction of their two kinds: whole numbers that fit a signed or an unsigned
64-bit word are exact, all others are binary floating-point numbers, and a number of one kind never
equals one of the other. Objects list their members; a value read from text lists them in increasing
order of the keys.

* `same` is equality of values: it identifies the two floating-point zeros and nothing else.
-/

namespace Telemetry.Json

/-- A whole number of the signed or unsigned 64-bit range. Numbers beyond it are read as
floating-point numbers, so no other whole numbers are needed. -/
structure Whole where
  value : Int
  lower : -2 ^ 63 ≤ value
  upper : value < 2 ^ 64
deriving DecidableEq

namespace Whole

/-- A whole number is its value; the bounds that come with it make no difference. -/
theorem ext_value {a b : Whole} (h : a.value = b.value) : a = b := by
  cases a; cases b; cases h; rfl

/-- The whole number of an integer in range. Out of range there is none, and a reader makes a
floating-point number instead. -/
def ofInt? (i : Int) : Option Whole :=
  if h : -2 ^ 63 ≤ i ∧ i < 2 ^ 64 then some ⟨i, h.1, h.2⟩ else none

/-- A signed word as a whole number. -/
def ofInt64 (n : Int64) : Whole where
  value := n.toInt
  lower := n.le_toInt
  upper := Int.lt_trans n.toInt_lt (by decide)

/-- An unsigned word as a whole number. -/
def ofUInt64 (n : UInt64) : Whole where
  value := n.toNat
  lower := by omega
  upper := by
    have := n.toNat_lt
    omega

/-- The signed word of a number, if it fits. The upper half of the unsigned range does not. -/
def toInt64? (w : Whole) : Option Int64 :=
  if w.value < 2 ^ 63 then some (Int64.ofInt w.value) else none

/-- A signed word comes back from the number that it is. -/
theorem toInt64?_ofInt64 (n : Int64) : (ofInt64 n).toInt64? = some n := by
  have h : (ofInt64 n).value < 2 ^ 63 := n.toInt_lt
  rw [toInt64?, if_pos h]
  exact congrArg some n.ofInt_toInt

/-- A whole number in decimal digits. -/
def text (w : Whole) : String := toString w.value

end Whole

/-- A number of either kind. The kind is kept, for a whole number and a floating-point number are
never the same. -/
inductive Number where
  | whole (n : Whole)
  | real (x : Decimal.Binary64)
deriving DecidableEq

namespace Number

/-- Equality of numbers of one kind. The two zeros of floating point are equal, and a whole number
never equals a floating-point number. -/
def same : Number → Number → Bool
  | whole a, whole b => a = b
  | real a, real b => a.same b
  | _, _ => false

/-- Floating-point numbers are positional from `0.00001` up to sixteen digits before the point. -/
def style : Decimal.Style := ⟨-5, 15⟩

/-- A number as it is written: whole numbers in full, others by the shortest decimal that reads
back. -/
def text : Number → String
  | whole n => n.text
  | real x => style.text x

end Number

/-- A JSON value. The members of an object are a list, as they are written; a document has them in
order. -/
inductive Value where
  | null
  | boolean (b : Bool)
  | number (n : Number)
  | string (s : String)
  | array (items : List Value)
  | object (members : List (String × Value))

namespace Value

instance : Inhabited Value := ⟨null⟩

/-- A signed word as a value. -/
def ofInt64 (n : Int64) : Value := number (.whole (.ofInt64 n))

/-- An unsigned word as a value. -/
def ofUInt64 (n : UInt64) : Value := number (.whole (.ofUInt64 n))

/-- A natural number as a value, which is only meant for those that fit a word. -/
def ofNat (n : Nat) : Value := ofUInt64 (UInt64.ofNat n)

/-- The text of a value, if it is one. Nothing else is made into a text, not even a number. -/
def asString? : Value → Option String
  | string s => some s
  | _ => none

/-- The signed word of a whole number in range; a floating-point number is none, even if it has no
fraction. -/
def asInt64? : Value → Option Int64
  | number (.whole n) => n.toInt64?
  | _ => none

/-- Whether a value is an array. Filters take arrays and other values in different ways. -/
def isArray : Value → Bool
  | array _ => true
  | _ => false

mutual

/-- Equality of values. Members are compared in the order in which they are listed, so objects are
to be compared as documents. -/
def same : Value → Value → Bool
  | null, null => true
  | boolean a, boolean b => a == b
  | number a, number b => a.same b
  | string a, string b => a == b
  | array a, array b => sameItems a b
  | object a, object b => sameMembers a b
  | _, _ => false

/-- Equality of two arrays, item by item. Arrays of different lengths are not equal. -/
def sameItems : List Value → List Value → Bool
  | [], [] => true
  | a :: as, b :: bs => same a b && sameItems as bs
  | _, _ => false

/-- Equality of two objects, member by member in the order of writing. In documents this is the
order of the keys, and so no order at all. -/
def sameMembers : List (String × Value) → List (String × Value) → Bool
  | [], [] => true
  | a :: as, b :: bs => sameMember a b && sameMembers as bs
  | _, _ => false

/-- Equality of two members: of their keys and of their values. -/
def sameMember : String × Value → String × Value → Bool
  | (k, a), (l, b) => k == l && same a b

end

end Value

end Telemetry.Json
