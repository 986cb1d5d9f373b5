import Telemetry.Proofs.ObjectId.Order

/-!
# Ids of calls in a row

A generator keeps its counter from one call to the next, and its five bytes for good. The counter
wraps at `2 ^ 32`, which is a multiple of `2 ^ 24`, so that wrap is not seen in the three bytes that
are kept of it: those count the calls modulo `2 ^ 24`, wherever the counter stands at first.

* `take_eq` — the ids of calls in a row, and the generator that is left.
* `nth_eq_iff` — which two calls make one id.
* `ids_in_a_row` — ids of `2 ^ 24` calls in a row differ, when ids repeat, and which is smaller.
-/

namespace Telemetry.ObjectId.Generator

variable (g : Generator) (seconds : Nat → Int)

/-- A generator after `n` calls. -/
def after (n : Nat) : Generator := { g with counter := g.counter + UInt32.ofNat n }

theorem after_zero : g.after 0 = g := by
  have counted : g.counter + UInt32.ofNat 0 = g.counter := UInt32.add_zero g.counter
  rw [after, counted]

/-- The call after `n` others makes the id numbered `n`, and counts one further. -/
theorem next_after (n : Nat) :
    (g.after n).next (seconds n) = (g.nth seconds n, g.after (n + 1)) := by
  have counted : g.counter + UInt32.ofNat n + 1 = g.counter + UInt32.ofNat (n + 1) := by
    rw [UInt32.ofNat_add, UInt32.add_assoc]
    rfl
  rw [next, after, after, ← counted]
  rfl

/-- The ids of `n` calls in a row, and the generator that is left. -/
theorem take_eq (n : Nat) :
    g.take seconds n = ((List.range n).map (g.nth seconds), g.after n) := by
  induction n with
  | zero => rw [take, after_zero, List.range_zero, List.map_nil]
  | succ n ih =>
    rw [take, ih]
    dsimp only
    rw [next_after, List.range_succ, List.map_append, List.map_singleton]

theorem getElem?_take {n i : Nat} {a : ObjectId} (h : (g.take seconds n).1[i]? = some a) :
    a = g.nth seconds i := by
  rw [take_eq, List.getElem?_map, Option.map_eq_some_iff] at h
  obtain ⟨k, hk, rfl⟩ := h
  rw [(List.getElem?_eq_some_iff.1 hk).2.symm, List.getElem_range]

/-- Two calls make one id exactly if their seconds agree in the bits that are kept, and there is a
multiple of `2 ^ 24` calls between them. -/
theorem nth_eq_iff (i j : Nat) :
    g.nth seconds i = g.nth seconds j ↔
      seconds i % 2 ^ 32 = seconds j % 2 ^ 32 ∧ (2 ^ 24 : Int) ∣ (i : Int) - j := by
  have values : g.nth seconds i = g.nth seconds j ↔
      (g.nth seconds i).value = (g.nth seconds j).value :=
    ⟨congrArg ObjectId.value, ext_value⟩
  rw [values, nth_value, nth_value]
  omega

/-- At most `2 ^ 24` calls in a row make as many ids. -/
theorem nodup_window (n m : Nat) : (((g.take seconds n).1.drop m).take (2 ^ 24)).Nodup := by
  rw [take_eq, List.Nodup, List.pairwise_iff_getElem]
  intro i j hi hj hij heq
  simp only [List.getElem_take, List.getElem_drop, List.getElem_map, List.getElem_range] at heq
  obtain ⟨-, apart⟩ := (g.nth_eq_iff seconds (m + i) (m + j)).1 heq
  have few : j < 2 ^ 24 := Nat.lt_of_lt_of_le hj (List.length_take_le ..)
  omega

/-- The ids of `n` calls in a row, wherever the counter starts and whatever the clock shows. Any
`2 ^ 24` of the calls that follow each other make different ids; two calls make one id exactly if
their seconds agree modulo `2 ^ 32` and their numbers differ by a multiple of `2 ^ 24`; and as long
as the seconds fit in 32 bits the id of an earlier second is the smaller one. -/
theorem ids_in_a_row (n : Nat) :
    (g.take seconds n).1.length = n ∧
      (∀ m, (((g.take seconds n).1.drop m).take (2 ^ 24)).Nodup) ∧
      ∀ i j a b, (g.take seconds n).1[i]? = some a → (g.take seconds n).1[j]? = some b →
        (a = b ↔ seconds i % 2 ^ 32 = seconds j % 2 ^ 32 ∧ (2 ^ 24 : Int) ∣ (i : Int) - j) ∧
        (0 ≤ seconds i → seconds i < seconds j → seconds j < 2 ^ 32 → a < b) := by
  refine ⟨?_, g.nodup_window seconds n, fun i j a b ha hb => ?_⟩
  · rw [take_eq, List.length_map, List.length_range]
  · obtain rfl := g.getElem?_take seconds ha
    obtain rfl := g.getElem?_take seconds hb
    exact ⟨g.nth_eq_iff seconds i j, nth_lt_of_seconds⟩

/-- The counter wraps between two calls, and the id of the later second is still the larger one. -/
theorem ids_in_a_row_of_wrap :
    (take ⟨7, 0xffffffff⟩ (fun i => 5 + i) 2).1 = [make 5 7 0xffffffff, make 6 7 0] ∧
      make 5 7 0xffffffff ≠ make 6 7 0 ∧ make 5 7 0xffffffff < make 6 7 0 := by
  have row := (ids_in_a_row ⟨7, 0xffffffff⟩ (fun i => 5 + i) 2).2.2 0 1 (make 5 7 0xffffffff)
    (make 6 7 0) (by decide) (by decide)
  refine ⟨by decide, fun same => ?_, row.2 (by decide) (by decide) (by decide)⟩
  exact absurd (row.1.1 same).1 (by decide)

end Telemetry.ObjectId.Generator
