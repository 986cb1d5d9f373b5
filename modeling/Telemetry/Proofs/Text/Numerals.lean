import Mathlib.Data.Nat.Digits.Defs
import Telemetry.Text.Hex
import Telemetry.Text.Natural

/-!
# Numerals

A number is written in digits in two ways. An object id has a fixed number of hex digits, so two ids
can be compared digit by digit; a number in a setting has as many decimal digits as its writer
likes.

* `Positional.digits_lt_iff` — numerals of one width are ordered as their numbers, and
  `Positional.map_lt_map_iff` carries that over to characters and bytes.
* `Text.hexValues?_isSome_iff`, `Text.map_toLower_of_hexValues?` — which characters are hex digits,
  and that the digits written for a text are its own in lower case.
* `Text.natural?_eq_some_iff` — which texts are numbers in decimal digits, and of which.
-/

namespace Telemetry

/-! ## Numerals of one width -/

namespace Positional

/-- Of two numbers the quotients decide, and the remainders where the quotients are equal. This is
one step of comparing numerals from the left. -/
theorem div_mod_lt_iff {p m n : Nat} : m / p < n / p ∨ m / p = n / p ∧ m % p < n % p ↔ m < n := by
  have hm := Nat.div_add_mod m p
  have hn := Nat.div_add_mod n p
  constructor
  · rintro (hlt | ⟨heq, hlt⟩)
    · exact Nat.lt_of_div_lt_div hlt
    · rw [← hm, ← hn, heq]
      exact Nat.add_lt_add_left hlt _
  · intro h
    rcases Nat.lt_or_eq_of_le (Nat.div_le_div_right (Nat.le_of_lt h)) with hlt | heq
    · exact .inl hlt
    · refine .inr ⟨heq, ?_⟩
      rw [← hm, ← hn, heq] at h
      exact Nat.lt_of_add_lt_add_left h

/-- Numerals of one width are ordered as their numbers. The width must be the same, for a shorter
numeral would be compared with the wrong digits. -/
theorem digits_lt_iff {b w m n : Nat} (hm : m < b ^ w) (hn : n < b ^ w) :
    digits b w m < digits b w n ↔ m < n := by
  induction w generalizing m n with
  | zero => simp [digits, Nat.lt_one_iff.1 hm, Nat.lt_one_iff.1 hn]
  | succ w ih =>
    have hb : 0 < b ^ w := Nat.pos_of_ne_zero fun h0 => by simp [Nat.pow_succ, h0] at hm
    have leading {k : Nat} (hk : k < b ^ (w + 1)) : k / b ^ w % b = k / b ^ w :=
      Nat.mod_eq_of_lt (Nat.div_lt_of_lt_mul hk)
    rw [digits, digits, List.cons_lt_cons_iff, leading hm, leading hn,
      ih (Nat.mod_lt _ hb) (Nat.mod_lt _ hb)]
    exact div_mod_lt_iff

/-- What stands for single digits and is ordered as they are is so in a row, too. -/
theorem map_lt_map_iff {α : Type} [LT α] {b : Nat} {f : Nat → α}
    (hlt : ∀ d < b, ∀ e < b, f d < f e ↔ d < e) (hinj : ∀ d < b, ∀ e < b, f d = f e → d = e) :
    ∀ {ds es : List Nat}, (∀ d ∈ ds, d < b) → (∀ e ∈ es, e < b) →
      (ds.map f < es.map f ↔ ds < es)
  | _, [], _, _ => by simp
  | [], _ :: _, _, _ => by simp
  | d :: ds, e :: es, hds, hes => by
    obtain ⟨hd, hds⟩ := List.forall_mem_cons.1 hds
    obtain ⟨he, hes⟩ := List.forall_mem_cons.1 hes
    have heq : f d = f e ↔ d = e := ⟨hinj d hd e he, congrArg f⟩
    rw [List.map_cons, List.map_cons, List.cons_lt_cons_iff, List.cons_lt_cons_iff,
      hlt d hd e he, heq, map_lt_map_iff hlt hinj hds hes]

/-- The numerals of one width, written with one sign for each digit, are ordered as the numbers. -/
theorem map_digits_lt_iff {α : Type} [LT α] {b w m n : Nat} {f : Nat → α}
    (hlt : ∀ d < b, ∀ e < b, f d < f e ↔ d < e) (hinj : ∀ d < b, ∀ e < b, f d = f e → d = e)
    (hb : 0 < b) (hm : m < b ^ w) (hn : n < b ^ w) :
    (digits b w m).map f < (digits b w n).map f ↔ m < n := by
  rw [map_lt_map_iff hlt hinj (fun _ => lt_of_mem_digits hb) (fun _ => lt_of_mem_digits hb),
    digits_lt_iff hm hn]

/-- A digit in the square of a base is two digits in the base. -/
theorem digits_two_mul (b w n : Nat) :
    digits b (2 * w) n = (digits (b * b) w n).flatMap fun d => [d / b, d % b] := by
  induction w generalizing n with
  | zero => rfl
  | succ w ih =>
    have hp : (b * b) ^ w = b ^ (2 * w) := by rw [← Nat.pow_two, ← Nat.pow_mul]
    have high : n / b ^ (2 * w + 1) % b = n / b ^ (2 * w) % (b * b) / b := by
      rw [Nat.mod_mul_right_div_self, Nat.div_div_eq_div_mul, Nat.pow_succ]
    have low : n % b ^ (2 * w + 1) / b ^ (2 * w) % b = n / b ^ (2 * w) % (b * b) % b := by
      rw [Nat.pow_succ, Nat.mod_mul_right_div_self, Nat.mod_mod, Nat.mod_mul_right_mod]
    have rest : n % b ^ (2 * w + 1) % b ^ (2 * w) = n % b ^ (2 * w) := by
      rw [Nat.pow_succ, Nat.mod_mul_right_mod]
    rw [Nat.mul_add, digits, digits, digits, List.flatMap_cons, high, low, rest, ih, hp]
    rfl

/-- The value of digits is the library's, which takes them from the least significant one. -/
theorem value_eq_ofDigits (b : Nat) : ∀ ds : List Nat, value b ds = Nat.ofDigits b ds.reverse
  | [] => rfl
  | d :: ds => by
    rw [value, value_eq_ofDigits b ds, List.reverse_cons, Nat.ofDigits_append,
      Nat.ofDigits_singleton, List.length_reverse, Nat.add_comm, Nat.mul_comm]

end Positional

namespace Text

/-! ## Hex digits -/

/-- A hex digit is the one that is written for its number, or the same letter in upper case. -/
theorem eq_of_hexValue? {c : Char} {d : Nat} (h : hexValue? c = some d) :
    c = hexDigit d ∨ 10 ≤ d ∧ c = Char.ofNat (55 + d) := by
  have le {a b : Char} : a ≤ b ↔ a.toNat ≤ b.toNat := Iff.rfl
  have numbered {n : Nat} (hn : n = c.toNat) : c = Char.ofNat n := by
    rw [hn, Char.ofNat_toNat]
  -- the three ranges in the order in which the reader tries them
  simp only [hexValue?, le] at h
  split at h
  · next hc =>
    have h0 : 48 ≤ c.toNat := hc.1
    have h9 : c.toNat ≤ 57 := hc.2
    obtain rfl := Option.some.inj h
    left
    rw [hexDigit, if_pos (by omega)]
    exact numbered (by omega)
  split at h
  · next hc =>
    have ha : 97 ≤ c.toNat := hc.1
    obtain rfl := Option.some.inj h
    left
    rw [hexDigit, if_neg (by omega)]
    exact numbered (by omega)
  split at h
  · next hc =>
    have hA : 65 ≤ c.toNat := hc.1
    obtain rfl := Option.some.inj h
    exact .inr ⟨by omega, numbered (by omega)⟩
  · cases h

/-- Something holds of all hex digits if it holds of the lower-case and of the upper-case ones. -/
theorem hexValue?_cases {P : Char → Nat → Prop} (lower : ∀ d < 16, P (hexDigit d) d)
    (upper : ∀ d < 16, 10 ≤ d → P (Char.ofNat (55 + d)) d) {c : Char} {d : Nat}
    (h : hexValue? c = some d) : P c d := by
  rcases eq_of_hexValue? h with rfl | ⟨hten, rfl⟩
  · exact lower d (hexValue?_lt h)
  · exact upper d (hexValue?_lt h) hten

theorem toLower_of_hexValue? {c : Char} {d : Nat} (h : hexValue? c = some d) :
    c.toLower = hexDigit d :=
  hexValue?_cases (P := fun c d => c.toLower = hexDigit d) (by decide) (by decide) h

/-- The hex digits are the ten decimal ones and six letters in either case. -/
theorem hexValue?_isSome_iff {c : Char} :
    (hexValue? c).isSome = true ↔ c ∈ "0123456789abcdefABCDEF".toList := by
  constructor
  · intro h
    obtain ⟨d, hd⟩ := Option.isSome_iff_exists.1 h
    exact hexValue?_cases (P := fun c _ => c ∈ "0123456789abcdefABCDEF".toList) (by decide)
      (by decide) hd
  · have all : "0123456789abcdefABCDEF".toList.all (fun c => (hexValue? c).isSome) = true := by
      decide
    exact fun hc => List.all_eq_true.1 all c hc

theorem hexDigit_lt_iff : ∀ d < 16, ∀ e < 16, hexDigit d < hexDigit e ↔ d < e := by
  decide +kernel

theorem hexDigit_inj : ∀ d < 16, ∀ e < 16, hexDigit d = hexDigit e → d = e := by decide

/-- A text is read as hex digits if every one of its characters is one. -/
theorem hexValues?_isSome_iff {cs : List Char} :
    (hexValues? cs).isSome = true ↔ ∀ c ∈ cs, c ∈ "0123456789abcdefABCDEF".toList := by
  induction cs with
  | nil => simp [hexValues?]
  | cons c cs ih =>
    rw [List.forall_mem_cons, ← ih, ← hexValue?_isSome_iff, hexValues?]
    cases hexValue? c <;> cases hexValues? cs <;> simp

/-- The digits that are written for the numbers of a text are those of the text in lower case. -/
theorem map_toLower_of_hexValues? : ∀ {cs : List Char} {ds : List Nat},
    hexValues? cs = some ds → cs.map Char.toLower = ds.map hexDigit
  | [], ds, h => by
    obtain rfl := Option.some.inj h
    rfl
  | c :: cs, ds, h => by
    rw [hexValues?] at h
    split at h
    · next e es hc hcs =>
      obtain rfl := Option.some.inj h
      rw [List.map_cons, List.map_cons, toLower_of_hexValue? hc, map_toLower_of_hexValues? hcs]
    · cases h

/-! ## Decimal digits -/

/-- A text is a numeral of a number: one or more decimal digits, the leading one first, which may
follow a plus sign. -/
def Numeral (s : String) (n : Nat) : Prop :=
  ∃ ds : List Nat, ds ≠ [] ∧ (∀ d ∈ ds, d < 10) ∧ Nat.ofDigits 10 ds.reverse = n ∧
    (s.toList = ds.map Nat.digitChar ∨ s.toList = '+' :: ds.map Nat.digitChar)

/-- What of a text is read as digits. -/
def afterSign : List Char → List Char
  | '+' :: rest => rest
  | cs => cs

theorem eq_afterSign (cs : List Char) : cs = afterSign cs ∨ cs = '+' :: afterSign cs := by
  unfold afterSign
  split
  · exact .inr rfl
  · exact .inl rfl

/-- A digit is no sign, so digits without a sign are read as they are. -/
theorem afterSign_digits {ds : List Nat} (hds : ∀ d ∈ ds, d < 10) :
    afterSign (ds.map Nat.digitChar) = ds.map Nat.digitChar := by
  cases ds with
  | nil => rfl
  | cons d ds =>
    have no_sign : ∀ d < 10, Nat.digitChar d ≠ '+' := by decide
    rw [List.map_cons, afterSign]
    rintro rest heq
    exact no_sign d (hds d (List.mem_cons_self ..)) (List.cons.inj heq).1

/-- A digit is the character of its value. -/
theorem digitChar_of_isDigit {c : Char} (h : c.isDigit = true) :
    c.toNat - 48 < 10 ∧ Nat.digitChar (c.toNat - 48) = c := by
  have numbered : ∀ d < 10, Nat.digitChar d = Char.ofNat (48 + d) := by decide
  simp only [Char.isDigit, Bool.and_eq_true, decide_eq_true_eq] at h
  have h0 : 48 ≤ c.toNat := h.1
  have h9 : c.toNat ≤ 57 := h.2
  have hd : c.toNat - 48 < 10 := by omega
  refine ⟨hd, ?_⟩
  rw [numbered _ hd, Nat.add_sub_cancel' h0, Char.ofNat_toNat]

theorem map_digitChar {cs : List Char} (h : ∀ c ∈ cs, c.isDigit = true) :
    (cs.map fun c => c.toNat - 48).map Nat.digitChar = cs := by
  rw [List.map_map]
  exact (List.map_congr_left fun c hc => (digitChar_of_isDigit (h c hc)).2).trans (List.map_id cs)

theorem map_toNat_digitChar {ds : List Nat} (h : ∀ d ∈ ds, d < 10) :
    (ds.map Nat.digitChar).map (fun c => c.toNat - 48) = ds := by
  have one : ∀ d < 10, (Nat.digitChar d).toNat - 48 = d := by decide
  rw [List.map_map]
  exact (List.map_congr_left fun d hd => one d (h d hd)).trans (List.map_id ds)

theorem natural?_eq (s : String) : natural? s =
    if afterSign s.toList ≠ [] ∧ (afterSign s.toList).all Char.isDigit then
      some (Positional.value 10 ((afterSign s.toList).map fun c => c.toNat - 48))
    else none := rfl

/-- The texts that are read as numbers are the numerals, with zeros in front and one plus sign if
the writer likes. -/
theorem natural?_eq_some_iff {s : String} {n : Nat} : natural? s = some n ↔ Numeral s n := by
  rw [natural?_eq]
  constructor
  · intro h
    split at h
    · next hs =>
      have isDigit := List.all_eq_true.1 hs.2
      refine ⟨(afterSign s.toList).map fun c => c.toNat - 48, ?_, fun d hd => ?_, ?_, ?_⟩
      · exact fun hnil => hs.1 (List.map_eq_nil_iff.1 hnil)
      · obtain ⟨c, hc, rfl⟩ := List.mem_map.1 hd
        exact (digitChar_of_isDigit (isDigit c hc)).1
      · rw [← Positional.value_eq_ofDigits]
        exact Option.some.inj h
      · rw [map_digitChar isDigit]
        exact eq_afterSign _
    · cases h
  · -- the digits are read off again, with or without a sign before them
    rintro ⟨ds, hne, hds, rfl, hs⟩
    have digits : afterSign s.toList = ds.map Nat.digitChar := by
      rcases hs with hs | hs
      · rw [hs, afterSign_digits hds]
      · rw [hs, afterSign]
    have isDigit : ∀ d < 10, (Nat.digitChar d).isDigit = true := by decide
    have all : (ds.map Nat.digitChar).all Char.isDigit = true := by
      rw [List.all_map, List.all_eq_true]
      exact fun d hd => isDigit d (hds d hd)
    rw [digits, if_pos ⟨fun hnil => hne (List.map_eq_nil_iff.1 hnil), all⟩,
      map_toNat_digitChar hds, Positional.value_eq_ofDigits]

/-- The reader with a bound accepts the numerals of the numbers below it, and nothing else. -/
theorem naturalBelow?_eq_some_iff {bound n : Nat} {s : String} :
    naturalBelow? bound s = some n ↔ Numeral s n ∧ n < bound := by
  rw [naturalBelow?, Option.filter_eq_some_iff, natural?_eq_some_iff, decide_eq_true_iff]

end Text

end Telemetry
