import Telemetry.Power

/-!
# Fixed-width positional numerals

A number below `b ^ w` has exactly one numeral of `w` digits in base `b`, written with the leading
digit first. Object ids use two such numerals of the same number: twelve bytes and twenty-four hex
digits.

* `digits b w n` writes the numeral, `value b ds` reads one.
* `value_digits` and `digits_value` say that the two undo each other.
-/

namespace Telemetry.Positional

/-- The `w` digits of `n` in base `b`, leading digit first. Higher digits of `n` are cut off, so the
numeral always has its width. -/
def digits (b : Nat) : Nat → Nat → List Nat
  | 0, _ => []
  | w + 1, n => n / b ^ w % b :: digits b w (n % b ^ w)

/-- The number a numeral stands for, leading digit first. Nothing is asked of the digits: a digit
may be larger than the base, and the numeral of a number is not the only one for it then. -/
def value (b : Nat) : List Nat → Nat
  | [] => 0
  | d :: ds => d * b ^ ds.length + value b ds

/-- A numeral has its width, whatever the number. -/
@[simp] theorem length_digits (b w n : Nat) : (digits b w n).length = w := by
  induction w generalizing n with
  | zero => rfl
  | succ w ih => simp [digits, ih]

/-- What a numeral is written in are digits of the base. -/
theorem lt_of_mem_digits {b w n d : Nat} (hb : 0 < b) (h : d ∈ digits b w n) : d < b := by
  induction w generalizing n with
  | zero => simp [digits] at h
  | succ w ih =>
    rcases List.mem_cons.1 h with h | h
    · exact h ▸ Nat.mod_lt _ hb
    · exact ih h

/-- A numeral whose digits are digits of the base stands for a number of its width, so that it is
bounded by its length alone. -/
theorem value_lt {b : Nat} : ∀ {ds : List Nat}, (∀ d ∈ ds, d < b) → value b ds < b ^ ds.length
  | [], _ => by simp [value]
  | d :: ds, h => by
    have hd : d < b := h d (List.mem_cons_self ..)
    have ih := value_lt fun e he => h e (List.mem_cons_of_mem _ he)
    calc value b (d :: ds) < d * b ^ ds.length + b ^ ds.length := Nat.add_lt_add_left ih _
      _ = (d + 1) * b ^ ds.length := (Nat.succ_mul ..).symm
      _ ≤ b * b ^ ds.length := Nat.mul_le_mul_right _ hd
      _ = b ^ (d :: ds).length := by rw [List.length_cons, Nat.pow_succ, Nat.mul_comm]

/-- Reading back the numeral of a number that fits gives the number. Together with `digits_value`
this makes numerals of one width and numbers below the bound the same. -/
theorem value_digits {b w n : Nat} (hn : n < b ^ w) : value b (digits b w n) = n := by
  induction w generalizing n with
  | zero => simp at hn; simp [digits, value, hn]
  | succ w ih =>
    have hb : 0 < b ^ w := by
      rcases Nat.eq_zero_or_pos b with rfl | hb
      · simp at hn
      · exact Nat.pow_pos hb
    have hq : n / b ^ w < b := by
      rw [Nat.div_lt_iff_lt_mul hb, Nat.mul_comm, ← Nat.pow_succ]
      exact hn
    rw [digits, value, length_digits, ih (Nat.mod_lt _ hb), Nat.mod_eq_of_lt hq, Nat.mul_comm]
    exact Nat.div_add_mod ..

/-- Writing the number of a numeral gives the numeral back, zeros in front included, since the width
is that of the numeral. -/
theorem digits_value {b : Nat} :
    ∀ {ds : List Nat}, (∀ d ∈ ds, d < b) → digits b ds.length (value b ds) = ds
  | [], _ => rfl
  | d :: ds, h => by
    have hd : d < b := h d (List.mem_cons_self ..)
    have hds : ∀ e ∈ ds, e < b := fun e he => h e (List.mem_cons_of_mem _ he)
    have hv := value_lt hds
    have hp : 0 < b ^ ds.length := Nat.lt_of_le_of_lt (Nat.zero_le _) hv
    rw [List.length_cons, digits, value, Nat.mul_comm, Nat.mul_add_div hp, Nat.div_eq_of_lt hv,
      Nat.add_zero, Nat.mod_eq_of_lt hd, Nat.mul_add_mod, Nat.mod_eq_of_lt hv, digits_value hds]

end Telemetry.Positional
