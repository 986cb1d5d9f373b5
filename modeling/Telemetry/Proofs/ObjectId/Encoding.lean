import Mathlib.Data.List.Basic
import Telemetry.Proofs.ObjectId.Text
import Telemetry.Proofs.Text.Numerals
import Telemetry.StoreError

/-!
# The two numerals of an object id

An id is a number that is written as twelve bytes and as twenty-four hex digits. Both are numerals of
one width, so both are in one-to-one correspondence with the ids and ordered as they are; a text
differs from the written one at most in the case of its letters.

* `parse?_eq_some_iff` — the id that a text is read as.
* `toHex_eq_toLower` — what is written for that id is the text in lower case.
* `lt_iff_bytes`, `lt_iff_toHex` — the order of ids by bytes and by texts.
* `text_exact` — all of it together: which texts are ids, of which ids, and how they are ordered.
-/

namespace Telemetry.ObjectId

/-! ## Reading texts -/

/-- A text of exactly twenty-four hex digits, each in either case. -/
def HexText (s : String) : Prop :=
  s.length = 24 ∧ ∀ c ∈ s.toList, c ∈ "0123456789abcdefABCDEF".toList

/-- A text is read as the id whose hex digits it has. All that is said of the reader is derived from
this. -/
theorem parse?_eq_some_iff {s : String} {id : ObjectId} :
    parse? s = some id ↔ ∃ ds, Text.hexValues? s.toList = some ds ∧ ds.length = 24 ∧
      id.value = Positional.value 16 ds := by
  unfold parse?
  split
  · next ds h =>
    constructor
    · intro hs
      split at hs
      · next hl =>
        obtain rfl := Option.some.inj hs
        exact ⟨ds, h, hl, rfl⟩
      · cases hs
    · rintro ⟨es, hes, hl, hv⟩
      obtain rfl : ds = es := Option.some.inj (h.symm.trans hes)
      -- an id is its value, and the digits determine that
      rw [dif_pos hl]
      exact congrArg some (ext_value hv.symm)
  · next h =>
    constructor
    · intro hs
      cases hs
    · rintro ⟨ds, hds, -⟩
      rw [h] at hds
      cases hds

theorem length_of_hexValues? {s : String} {ds : List Nat}
    (h : Text.hexValues? s.toList = some ds) : ds.length = s.length := by
  have hl := congrArg List.length (Text.map_toLower_of_hexValues? h)
  rw [List.length_map, List.length_map, String.length_toList] at hl
  exact hl.symm

/-- The texts that are ids are those of exactly twenty-four hex digits. Nothing else is asked, so
every number below the bound has a text. -/
theorem exists_parse?_iff {s : String} : (∃ id, parse? s = some id) ↔ HexText s := by
  rw [HexText, ← Text.hexValues?_isSome_iff, Option.isSome_iff_exists]
  constructor
  · rintro ⟨id, h⟩
    obtain ⟨ds, hds, hl, -⟩ := parse?_eq_some_iff.1 h
    exact ⟨(length_of_hexValues? hds).symm.trans hl, ds, hds⟩
  · rintro ⟨hl, ds, hds⟩
    have hl' : ds.length = 24 := (length_of_hexValues? hds).trans hl
    have small : Positional.value 16 ds < 2 ^ 96 := by
      have := Positional.value_lt (Text.lt_of_mem_hexValues? hds)
      rwa [hl'] at this
    exact ⟨⟨_, small⟩, parse?_eq_some_iff.2 ⟨ds, hds, hl', rfl⟩⟩

/-- What is written for the id of a text is the text in lower case. So reading and writing a text
comes to nothing the second time. -/
theorem toHex_eq_toLower {s : String} {id : ObjectId} (h : parse? s = some id) :
    id.toHex = s.toLower := by
  obtain ⟨ds, hds, hl, hv⟩ := parse?_eq_some_iff.1 h
  have digits : Positional.digits 16 24 (Positional.value 16 ds) = ds := by
    rw [← hl]
    exact Positional.digits_value (Text.lt_of_mem_hexValues? hds)
  rw [toHex, hv, digits, ← Text.map_toLower_of_hexValues? hds, ← String.toList_map,
    String.ofList_toList]
  rfl

/-- Two texts are of one id exactly if they are equal but for the case of letters. -/
theorem eq_iff_toLower_eq {s t : String} {a b : ObjectId} (hs : parse? s = some a)
    (ht : parse? t = some b) : a = b ↔ s.toLower = t.toLower := by
  rw [← toHex_eq_toLower hs, ← toHex_eq_toLower ht, toHex_inj]

/-! ## Bytes -/

/-- Every twelve bytes are the bytes of their id. -/
theorem bytes_ofBytes (bs : List UInt8) (h : bs.length = 12) : (ofBytes bs h).bytes = bs := by
  have small : ∀ d ∈ bs.map UInt8.toNat, d < 256 := fun d hd => by
    obtain ⟨b, -, rfl⟩ := List.mem_map.1 hd
    exact b.toNat_lt
  have digits := Positional.digits_value small
  rw [List.length_map, h] at digits
  rw [bytes, ofBytes, digits, List.map_map]
  exact (List.map_congr_left fun b _ => UInt8.ofNat_toNat).trans (List.map_id bs)

/-- The text has two digits for each byte, the upper half first. This is why texts and bytes are in
the same order. -/
theorem toHex_eq_bytes (id : ObjectId) :
    id.toHex = String.ofList (id.bytes.flatMap fun b =>
      [Text.hexDigit (b.toNat / 16), Text.hexDigit (b.toNat % 16)]) := by
  have byte : ∀ d ∈ Positional.digits (16 * 16) 12 id.value, (UInt8.ofNat d).toNat = d :=
    fun d hd => UInt8.toNat_ofNat_of_lt' (Positional.lt_of_mem_digits (by decide) hd)
  have halves : Positional.digits 16 24 id.value
      = (Positional.digits (16 * 16) 12 id.value).flatMap fun d => [d / 16, d % 16] :=
    Positional.digits_two_mul 16 12 id.value
  rw [toHex, halves, List.map_flatMap, bytes, List.flatMap_map]
  refine congrArg String.ofList (List.flatMap_congr fun d hd => ?_)
  rw [byte d hd]
  rfl

/-! ## Order

Bytes and texts are numerals of one width of the same number, so both are in the order of the
numbers. -/

theorem ofNat_lt_iff : ∀ d < 256, ∀ e < 256, UInt8.ofNat d < UInt8.ofNat e ↔ d < e := by
  intro d hd e he
  rw [UInt8.lt_iff_toNat_lt, UInt8.toNat_ofNat_of_lt' hd, UInt8.toNat_ofNat_of_lt' he]

theorem ofNat_inj : ∀ d < 256, ∀ e < 256, UInt8.ofNat d = UInt8.ofNat e → d = e := by
  intro d hd e he h
  have hn := congrArg UInt8.toNat h
  rwa [UInt8.toNat_ofNat_of_lt' hd, UInt8.toNat_ofNat_of_lt' he] at hn

/-- Ids are ordered as their bytes. -/
theorem lt_iff_bytes (a b : ObjectId) : a < b ↔ a.bytes < b.bytes := by
  have fits (id : ObjectId) : id.value < 256 ^ 12 := Nat.lt_of_lt_of_eq id.value_lt (by decide)
  exact (Positional.map_digits_lt_iff ofNat_lt_iff ofNat_inj (by decide) (fits a) (fits b)).symm

/-- Ids are ordered as their texts. -/
theorem lt_iff_toHex (a b : ObjectId) : a < b ↔ a.toHex < b.toHex := by
  have fits (id : ObjectId) : id.value < 16 ^ 24 := Nat.lt_of_lt_of_eq id.value_lt (by decide)
  rw [String.lt_iff, toHex, toHex, String.toList_ofList, String.toList_ofList]
  exact (Positional.map_digits_lt_iff Text.hexDigit_lt_iff Text.hexDigit_inj (by decide) (fits a)
    (fits b)).symm

/-! ## The encoding -/

/-- How a text is read: which texts are ids, what is told of the others, and what is written for the
id again. -/
structure ReadsText (s : String) : Prop where
  accepted : (∃ id, parse? s = some id) ↔ HexText s
  /-- the reader of arguments tells of the text that it is no id -/
  refused : ¬HexText s → parseId s = .error (.invalidIdentifier s)
  lowered : ∀ id, parse? s = some id → parseId s = .ok id ∧ id.toHex = s.toLower
  /-- of two texts of one id nothing differs but the case of letters -/
  same : ∀ t a b, parse? s = some a → parse? t = some b → (a = b ↔ s.toLower = t.toLower)

/-- How twelve bytes are written: they make an id, the id gives them back, and its text has two
digits for each of them. -/
structure WritesBytes (bs : List UInt8) (h : bs.length = 12) : Prop where
  bytes : (ofBytes bs h).bytes = bs
  digits : (ofBytes bs h).toHex = String.ofList (bs.flatMap fun b =>
    [Text.hexDigit (b.toNat / 16), Text.hexDigit (b.toNat % 16)])
  back : parse? (ofBytes bs h).toHex = some (ofBytes bs h)

/-- The whole behaviour of the reader on one text. -/
theorem reads_text (s : String) : ReadsText s where
  accepted := exists_parse?_iff
  refused hs := by
    rw [← exists_parse?_iff, ← Option.isSome_iff_exists, Bool.not_eq_true,
      Option.isSome_eq_false_iff, Option.isNone_iff_eq_none] at hs
    rw [parseId, hs]
  lowered id h := by
    refine ⟨?_, toHex_eq_toLower h⟩
    rw [parseId, h]
  same _ _ _ hs ht := eq_iff_toLower_eq hs ht

theorem writes_bytes (bs : List UInt8) (h : bs.length = 12) : WritesBytes bs h where
  bytes := bytes_ofBytes bs h
  digits := by rw [toHex_eq_bytes, bytes_ofBytes]
  back := parse?_toHex _

/-- The texts of ids are an exact encoding that keeps the order. A text is an id exactly if it is
twenty-four hex digits, it is written again in lower case, and two texts are of one id exactly if
they are equal but for case; every twelve bytes are written and read back; and an id is smaller than
another by its bytes exactly if it is by its text. -/
theorem text_exact :
    (∀ s, ReadsText s) ∧ (∀ bs h, WritesBytes bs h) ∧
      ∀ a b : ObjectId, (a < b ↔ a.bytes < b.bytes) ∧ (a.bytes < b.bytes ↔ a.toHex < b.toHex) :=
  ⟨reads_text, writes_bytes, fun a b =>
    ⟨lt_iff_bytes a b, (lt_iff_bytes a b).symm.trans (lt_iff_toHex a b)⟩⟩

/-- A text in mixed case is an id, which is written in lower case; one digit less is none. -/
theorem text_exact_of_mixedCase :
    HexText "5A1b2C3d4E5f60718293A4b5" ∧
      parseId "5A1b2C3d4E5f60718293A4b5" = .ok ⟨0x5a1b2c3d4e5f60718293a4b5, by decide⟩ ∧
      parseId "5A1b2C3d4E5f60718293A4b" = .error (.invalidIdentifier "5A1b2C3d4E5f60718293A4b") := by
  have read : parse? "5A1b2C3d4E5f60718293A4b5" = some ⟨0x5a1b2c3d4e5f60718293a4b5, by decide⟩ := by
    decide +kernel
  have short : ¬HexText "5A1b2C3d4E5f60718293A4b" := fun h => absurd h.1 (by decide)
  exact ⟨(text_exact.1 _).accepted.1 ⟨_, read⟩, ((text_exact.1 _).lowered _ read).1,
    (text_exact.1 _).refused short⟩

end Telemetry.ObjectId
