/-!
# Cutting a list into parts

Long lists are sent in parts of one length, of which only the last may be shorter.

* `flatten_chunks` says that the parts in order are the list, and `length_le_of_mem_chunks` that
  none is too long.
* `length_chunks` is the number of the parts; `length_of_mem_dropLast_chunks` and
  `ne_nil_of_mem_chunks` say that only the last may be shorter, and that it is not empty.
-/

namespace Telemetry

/-- The first `n` items, the next `n`, and so on. Parts of length zero are not made: they would
never use the list up, so for `n = 0` there are no parts at all. -/
def chunks {α : Type} (n : Nat) (items : List α) : List (List α) :=
  if _h : items = [] ∨ n = 0 then [] else items.take n :: chunks n (items.drop n)
termination_by items.length
decreasing_by
  have : items.length ≠ 0 := by simp_all
  simp only [List.length_drop]
  omega

variable {α : Type}

@[simp] theorem chunks_nil (n : Nat) : chunks n ([] : List α) = [] := by
  rw [chunks, dif_pos (.inl rfl)]

/-- One step of the cutting, for a list that is not used up. -/
theorem chunks_of_ne {n : Nat} {items : List α} (hi : items ≠ []) (hn : n ≠ 0) :
    chunks n items = items.take n :: chunks n (items.drop n) := by
  rw [chunks, dif_neg (by simp [hi, hn])]

/-- Nothing is lost, repeated or moved: the parts in order are the list again. -/
theorem flatten_chunks {n : Nat} (hn : n ≠ 0) (items : List α) :
    (chunks n items).flatten = items := by
  by_cases hi : items = []
  · simp [hi]
  · have : (items.drop n).length < items.length := by
      have : items.length ≠ 0 := by simp_all
      simp only [List.length_drop]
      omega
    rw [chunks_of_ne hi hn, List.flatten_cons, flatten_chunks hn (items.drop n),
      List.take_append_drop]
termination_by items.length

/-- No part is longer than it may be, whatever the length of the list. -/
theorem length_le_of_mem_chunks {n : Nat} {part items : List α} (h : part ∈ chunks n items) :
    part.length ≤ n := by
  by_cases hi : items = []
  · simp [hi] at h
  · by_cases hn : n = 0
    · rw [chunks, dif_pos (.inr hn)] at h
      cases h
    · have : (items.drop n).length < items.length := by
        have : items.length ≠ 0 := by simp_all
        simp only [List.length_drop]
        omega
      rw [chunks_of_ne hi hn] at h
      rcases List.mem_cons.1 h with rfl | h
      · exact List.length_take_le ..
      · exact length_le_of_mem_chunks h
termination_by items.length

/-- There is no empty part, not even for an empty list, which has no parts. -/
theorem ne_nil_of_mem_chunks {n : Nat} {part items : List α} (h : part ∈ chunks n items) :
    part ≠ [] := by
  fun_induction chunks n items with
  | case1 items _ => cases h
  | case2 items hsplit ih =>
    obtain ⟨hi, hn⟩ := not_or.1 hsplit
    rcases List.mem_cons.1 h with rfl | h
    · simp [List.take_eq_nil_iff, hi, hn]
    · exact ih h

/-- Every part but the last is full, so the list is cut as rarely as the length allows. -/
theorem length_of_mem_dropLast_chunks {n : Nat} {part items : List α}
    (h : part ∈ (chunks n items).dropLast) : part.length = n := by
  fun_induction chunks n items with
  | case1 items _ => cases h
  | case2 items hsplit ih =>
    have hn : n ≠ 0 := (not_or.1 hsplit).2
    by_cases hrest : items.drop n = []
    · rw [hrest, chunks_nil] at h
      cases h
    · have more : chunks n (items.drop n) ≠ [] := by simp [chunks_of_ne hrest hn]
      rw [List.dropLast_cons_of_ne_nil more] at h
      rcases List.mem_cons.1 h with rfl | h
      · have hlt : n < items.length := by
          rw [← Nat.not_le, ← List.drop_eq_nil_iff]
          exact hrest
        exact List.length_take_of_le (Nat.le_of_lt hlt)
      · exact ih h

/-- The number of parts is the number of items over their length, rounded up. -/
theorem length_chunks {n : Nat} (hn : n ≠ 0) (items : List α) :
    (chunks n items).length = (items.length + n - 1) / n := by
  fun_induction chunks n items with
  | case1 items h =>
    obtain rfl := h.resolve_right hn
    exact (Nat.div_eq_of_lt (by simp only [List.length_nil]; omega)).symm
  | case2 items hsplit ih =>
    have hpos : 0 < items.length := List.length_pos_iff.2 (not_or.1 hsplit).1
    rw [List.length_cons, ih, List.length_drop]
    by_cases hle : items.length ≤ n
    · -- nothing is left for a second part
      have one : items.length + n - 1 = (items.length - 1) + n := by omega
      rw [one, Nat.add_div_right _ (by omega), Nat.div_eq_of_lt (a := items.length - 1) (by omega),
        Nat.div_eq_of_lt (by omega)]
    · have more : items.length + n - 1 = (items.length - n + n - 1) + n := by omega
      rw [more, Nat.add_div_right _ (by omega)]

end Telemetry
