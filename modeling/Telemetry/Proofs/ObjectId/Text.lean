import Telemetry.ObjectId

/-!
# The text of an object id

* `parse?_toHex` — the written text is read back as the id.
* `toHex_inj` — two ids with one text are one id.
* `parse?_eq_none_iff` — a text is no id exactly if it is not twenty-four hex digits.
-/

namespace Telemetry.ObjectId

theorem hexValues?_toHex (id : ObjectId) :
    Text.hexValues? id.toHex.toList = some (Positional.digits 16 24 id.value) := by
  rw [toHex, String.toList_ofList]
  exact Text.hexValues?_map_hexDigit fun _ hd => Positional.lt_of_mem_digits (by decide) hd

/-- The written text is read back as the id, whatever the id is. -/
@[simp] theorem parse?_toHex (id : ObjectId) : parse? id.toHex = some id := by
  have hv : Positional.value 16 (Positional.digits 16 24 id.value) = id.value :=
    Positional.value_digits (Nat.lt_of_lt_of_eq id.value_lt (by decide))
  unfold parse?
  split
  · next ds h =>
    obtain rfl := Option.some.inj ((hexValues?_toHex id).symm.trans h)
    rw [dif_pos (Positional.length_digits ..)]
    exact congrArg some (ext_value hv)
  · next h => rw [hexValues?_toHex] at h; cases h

@[simp] theorem toHex_inj {a b : ObjectId} : a.toHex = b.toHex ↔ a = b := by
  refine ⟨fun h => ?_, fun h => h ▸ rfl⟩
  have hp := parse?_toHex a
  rw [h, parse?_toHex] at hp
  exact (Option.some.inj hp).symm

/-- A text is no id exactly if it is not twenty-four hex digits. There is no number that is too
large, for the digits are just enough. -/
theorem parse?_eq_none_iff {s : String} : parse? s = none ↔ isHex s = false := by
  unfold parse?
  split
  · next ds h =>
    have hex : isHex s = decide (ds.length = 24) := by
      rw [isHex, h]
    rw [hex]
    simp
  · next h =>
    have hex : isHex s = false := by
      rw [isHex, h]
    simp [hex]

theorem isHex_of_parse? {s : String} {id : ObjectId} (h : parse? s = some id) :
    isHex s = true := by
  rw [← Bool.not_eq_false, ← parse?_eq_none_iff, h]
  exact Option.some_ne_none id

end Telemetry.ObjectId
