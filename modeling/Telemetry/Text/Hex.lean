/-!
# Hex digits

Digits are written in lower case and read in either case.

* `hexValue?_hexDigit` says that a written digit is read back.
-/

namespace Telemetry.Text

/-- The hex digit of a number below sixteen, in lower case. -/
def hexDigit (d : Nat) : Char :=
  if d < 10 then Char.ofNat (48 + d) else Char.ofNat (87 + d)

/-- The number of a hex digit of either case. No other character is a digit, not even a digit of
another script. -/
def hexValue? (c : Char) : Option Nat :=
  if '0' ≤ c ∧ c ≤ '9' then some (c.toNat - 48)
  else if 'a' ≤ c ∧ c ≤ 'f' then some (c.toNat - 87)
  else if 'A' ≤ c ∧ c ≤ 'F' then some (c.toNat - 55)
  else none

/-- The number of a digit is below the base. -/
theorem hexValue?_lt {c : Char} {d : Nat} (h : hexValue? c = some d) : d < 16 := by
  have le {a b : Char} : a ≤ b ↔ a.toNat ≤ b.toNat := Iff.rfl
  have h9 : '9'.toNat = 57 := rfl
  have hf : 'f'.toNat = 102 := rfl
  have hF : 'F'.toNat = 70 := rfl
  simp only [hexValue?, le, h9, hf, hF] at h
  split at h
  · obtain rfl := Option.some.inj h
    omega
  split at h
  · obtain rfl := Option.some.inj h
    omega
  split at h
  · obtain rfl := Option.some.inj h
    omega
  · cases h

/-- A written digit is read back. -/
theorem hexValue?_hexDigit {d : Nat} (h : d < 16) : hexValue? (hexDigit d) = some d := by
  have all : ∀ e ∈ List.range 16, hexValue? (hexDigit e) = some e := by decide
  exact all d (List.mem_range.2 h)

/-- The numbers of a text of hex digits. One character that is no digit makes it no such text. -/
def hexValues? : List Char → Option (List Nat)
  | [] => some []
  | c :: cs =>
    match hexValue? c, hexValues? cs with
    | some d, some ds => some (d :: ds)
    | _, _ => none

/-- The numbers of a text of digits are below the base, so that the text is a numeral. -/
theorem lt_of_mem_hexValues? : ∀ {cs : List Char} {ds : List Nat},
    hexValues? cs = some ds → ∀ d ∈ ds, d < 16
  | [], ds, h, d, hd => by
    obtain rfl := Option.some.inj h
    cases hd
  | c :: cs, ds, h, d, hd => by
    rw [hexValues?] at h
    split at h
    · rename_i e es hc hcs
      obtain rfl := Option.some.inj h
      rcases List.mem_cons.1 hd with rfl | hd
      · exact hexValue?_lt hc
      · exact lt_of_mem_hexValues? hcs d hd
    · cases h

/-- A written text of digits is read back, digit by digit. -/
theorem hexValues?_map_hexDigit : ∀ {ds : List Nat},
    (∀ d ∈ ds, d < 16) → hexValues? (ds.map hexDigit) = some ds
  | [], _ => rfl
  | d :: ds, h => by
    have hd := hexValue?_hexDigit (h d (List.mem_cons_self ..))
    have ih := hexValues?_map_hexDigit fun e he => h e (List.mem_cons_of_mem _ he)
    rw [List.map_cons, hexValues?, hd, ih]

end Telemetry.Text
