import Telemetry.Text.Hex
import Telemetry.Text.Positional
import Telemetry.Text.Quoted

/-!
# Object ids

An object id is a number below `2 ^ 96`. It is read and written in two positional forms: twelve
bytes, and a text of twenty-four hex digits, which is written in lower case and read in either case.
Ids are ordered as numbers, which is also the order of their bytes and of their texts.

The leading four bytes are the seconds of the moment the id was made.
-/

namespace Telemetry

/-- A 96-bit identifier. The bound is part of the id, so that each has exactly one text and one list
of bytes. -/
structure ObjectId where
  /-- the id read as one big-endian number -/
  value : Nat
  value_lt : value < 2 ^ 96
deriving DecidableEq

namespace ObjectId

/-- An id is its number; the bound that comes with it makes no difference. -/
theorem ext_value {a b : ObjectId} (h : a.value = b.value) : a = b := by
  cases a; cases b; cases h; rfl

/-! ## Order -/

instance : Ord ObjectId := ⟨fun a b => compare a.value b.value⟩

instance : LT ObjectId := ⟨fun a b => a.value < b.value⟩

instance (a b : ObjectId) : Decidable (a < b) := inferInstanceAs (Decidable (a.value < b.value))

theorem compare_def (a b : ObjectId) : compare a b = compare a.value b.value := rfl

instance : Std.TransOrd ObjectId where
  eq_swap {a b} := by
    rw [compare_def, compare_def]
    exact Std.OrientedCmp.eq_swap
  isLE_trans {a b c} h h' := by
    rw [compare_def] at *
    exact Std.TransCmp.isLE_trans h h'

instance : Std.LawfulEqOrd ObjectId where
  compare_self {a} := by rw [compare_def]; exact Std.ReflCmp.compare_self
  eq_of_compare {a b} h := by
    rw [compare_def] at h
    exact ext_value (Std.LawfulEqCmp.eq_of_compare h)

/-! ## The id of something not yet stored -/

/-- The all-zero id, carried by entities that have not been stored. It is an id like any other to
the store. -/
def nil : ObjectId := ⟨0, by decide⟩

instance : Inhabited ObjectId := ⟨nil⟩

/-- Whether an id stands for none, so that an entity with it is not stored yet. No operation of the
client asks for this. -/
def isNil (id : ObjectId) : Bool := id = nil

/-- The seconds in the leading four bytes, as a number below `2 ^ 32`. Ids of different seconds are
ordered by this, whatever their other bytes are. -/
def timestamp (id : ObjectId) : Nat := id.value / 2 ^ 64

/-! ## Bytes -/

/-- The twelve bytes, leading byte first. Compared byte by byte they are in the order of the ids. -/
def bytes (id : ObjectId) : List UInt8 :=
  (Positional.digits 256 12 id.value).map UInt8.ofNat

/-- The id with the given twelve bytes. Their number is what makes the id small enough, so it is
asked for here and nowhere else. -/
def ofBytes (bs : List UInt8) (h : bs.length = 12) : ObjectId :=
  ⟨Positional.value 256 (bs.map UInt8.toNat), by
    have hb : ∀ d ∈ bs.map UInt8.toNat, d < 256 := fun d hd => by
      obtain ⟨b, -, rfl⟩ := List.mem_map.1 hd
      exact b.toNat_lt
    simpa [h] using Positional.value_lt hb⟩

/-! ## Hex text -/

/-- The twenty-four lower-case hex digits. This is the one text under which the id is stored. -/
def toHex (id : ObjectId) : String :=
  String.ofList ((Positional.digits 16 24 id.value).map Text.hexDigit)

/-- Whether a text is twenty-four hex digits, of either case. There is no sign and no space around
them. -/
def isHex (s : String) : Bool :=
  match Text.hexValues? s.toList with
  | some ds => ds.length = 24
  | none => false

/-- The id written by a text of twenty-four hex digits of either case. The proof that the number is
small enough comes with the digits. -/
def parse? (s : String) : Option ObjectId :=
  match h : Text.hexValues? s.toList with
  | some ds =>
    if hl : ds.length = 24 then
      some ⟨Positional.value 16 ds, by
        have := Positional.value_lt (Text.lt_of_mem_hexValues? h)
        simpa [hl] using this⟩
    else none
  | none => none

/-- What is wrong with a text that is no id, with the text quoted. -/
def invalidMessage (s : String) : String := "invalid object id: " ++ Text.quoted s

end ObjectId

end Telemetry
