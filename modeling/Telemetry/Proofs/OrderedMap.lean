import Telemetry.OrderedMap

/-!
# Lookups and listings of ordered maps

A map is seen in two ways: by its lookups and by its listing. Both views are needed for a table of
documents, which is changed by key and read as a list.

* `mem_entries` — an entry is listed exactly if it is looked up.
* `get?_insertAll`, `get?_filter`, `get?_ofList` — what the writes of many entries do to a lookup.
* `map` — the same keys with other values; it commutes with every write.
* `values_filter_key` — selecting by the key leaves what the key is looked up as.
* `size_erase_le`, `size_ofList_le` — how many entries there are at most.
-/

namespace Telemetry.OrderedMap

universe u v w

variable {κ : Type u} {α : Type v} {β : Type w} [Ord κ]

/-! ## Lookups and entries -/

section

variable [Std.LawfulEqOrd κ]

/-- What is looked up is among the entries, under the key that was asked for. -/
theorem mem_of_lookup {k : κ} {a : α} :
    ∀ {l : List (κ × α)}, lookup k l = some a → (k, a) ∈ l
  | [], h => by cases h
  | (k', a') :: rest, h => by
    rw [lookup] at h
    split at h
    · next hk =>
      obtain rfl := Std.LawfulEqCmp.eq_of_compare hk
      obtain rfl := Option.some.inj h
      exact List.mem_cons_self ..
    · exact List.mem_cons_of_mem _ (mem_of_lookup h)

/-- A key that is listed with one value only is looked up as that value, wherever it stands in the
list. -/
theorem lookup_of_unique {k : κ} {a : α} :
    ∀ {l : List (κ × α)}, (∀ a', (k, a') ∈ l → a' = a) → (k, a) ∈ l → lookup k l = some a
  | (k', a') :: rest, hu, h => by
    rw [lookup]
    split
    · next hk =>
      obtain rfl := Std.LawfulEqCmp.eq_of_compare hk
      rw [hu a' (List.mem_cons_self ..)]
    · next hk =>
      rcases List.mem_cons.1 h with h | h
      · obtain ⟨rfl, rfl⟩ := Prod.mk.inj h
        exact absurd Std.ReflCmp.compare_self hk
      · exact lookup_of_unique (fun a'' ha => hu a'' (List.mem_cons_of_mem _ ha)) h

variable [Std.TransOrd κ]

/-- In a list in the order of its keys an entry is what its key leads to: the keys before it are
smaller, so none of them is found first. -/
theorem lookup_of_mem {k : κ} {a : α} :
    ∀ {l : List (κ × α)}, l.Pairwise (fun a b => compare a.1 b.1 = .lt) → (k, a) ∈ l →
      lookup k l = some a
  | (k', a') :: rest, hl, h => by
    obtain ⟨hhead, hrest⟩ := List.pairwise_cons.1 hl
    rcases List.mem_cons.1 h with h | h
    · obtain ⟨rfl, rfl⟩ := Prod.mk.inj h
      rw [lookup, if_pos Std.ReflCmp.compare_self]
    · have hk : compare k k' ≠ .eq := fun he => by
        have hlt : compare k' k = .lt := hhead _ h
        rw [Std.OrientedCmp.eq_symm he] at hlt
        cases hlt
      rw [lookup, if_neg hk]
      exact lookup_of_mem hrest h

/-- An entry is listed exactly if it is looked up. -/
theorem mem_entries {m : OrderedMap κ α} {k : κ} {a : α} :
    (k, a) ∈ m.entries ↔ m.get? k = some a :=
  ⟨lookup_of_mem m.increasing, mem_of_lookup⟩

theorem mem_values {m : OrderedMap κ α} {a : α} : a ∈ m.values ↔ ∃ k, m.get? k = some a := by
  constructor
  · intro h
    obtain ⟨⟨k, a'⟩, he, rfl⟩ := List.mem_map.1 h
    exact ⟨k, mem_entries.1 he⟩
  · rintro ⟨k, h⟩
    exact List.mem_map.2 ⟨(k, a), mem_entries.2 h, rfl⟩

end

@[simp] theorem contains_eq_false_iff {m : OrderedMap κ α} {k : κ} :
    m.contains k = false ↔ m.get? k = none := by
  rw [contains, Option.isSome_eq_false_iff, Option.isNone_iff_eq_none]

/-! ## Writes of many entries -/

section

variable [Std.TransOrd κ] [Std.LawfulEqOrd κ]

theorem get?_insert_self (m : OrderedMap κ α) (k : κ) (a : α) :
    (m.insert k a).get? k = some a := by
  rw [get?_insert, if_pos Std.ReflCmp.compare_self]

theorem get?_insert_of_ne (m : OrderedMap κ α) {k k' : κ} (a : α) (h : k' ≠ k) :
    (m.insert k a).get? k' = m.get? k' := by
  rw [get?_insert, if_neg fun he => h (Std.LawfulEqCmp.eq_of_compare he)]

/-- After an insertion a key is looked up as the new value or as before. -/
theorem get?_insert_eq_some {m : OrderedMap κ α} {k k' : κ} {a a' : α}
    (h : (m.insert k a).get? k' = some a') : k' = k ∧ a' = a ∨ k' ≠ k ∧ m.get? k' = some a' := by
  by_cases hk : k' = k
  · subst hk
    rw [get?_insert_self] at h
    exact .inl ⟨rfl, (Option.some.inj h).symm⟩
  · rw [get?_insert_of_ne m a hk] at h
    exact .inr ⟨hk, h⟩

omit [Std.LawfulEqOrd κ] in
/-- After entries have been inserted in turn a key leads to the last of them with that key, or else
to what was there. -/
theorem get?_foldl_insert (k : κ) :
    ∀ (l : List (κ × α)) (m : OrderedMap κ α),
      (l.foldl (fun m e => m.insert e.1 e.2) m).get? k = (lookup k l.reverse).or (m.get? k)
  | [], _ => rfl
  | (k', a) :: rest, m => by
    -- of two entries with one key the later counts, so the list is searched from its end
    have lookup_append : ∀ l' : List (κ × α), lookup k (l' ++ [(k', a)])
        = (lookup k l').or (if compare k k' = .eq then some a else none) := by
      intro l'
      induction l' with
      | nil => rfl
      | cons e l' ih =>
        obtain ⟨k'', a''⟩ := e
        simp only [List.cons_append, lookup, ih]
        split <;> rfl
    rw [List.foldl_cons, get?_foldl_insert k rest, get?_insert, List.reverse_cons, lookup_append,
      Option.or_assoc]
    split <;> rfl

omit [Std.LawfulEqOrd κ] in
theorem get?_ofList (l : List (κ × α)) (k : κ) : (ofList l).get? k = lookup k l.reverse := by
  rw [ofList, get?_foldl_insert]
  exact Option.or_none

/-- Where the written map has a key its value counts, elsewhere the old one. The order in which its
entries are written makes no difference. -/
theorem get?_insertAll (m other : OrderedMap κ α) (k : κ) :
    (m.insertAll other).get? k = (other.get? k).or (m.get? k) := by
  rw [insertAll, get?_foldl_insert]
  congr 1
  refine Option.ext fun a => ⟨fun h => ?_, fun h => ?_⟩
  · exact mem_entries.1 (List.mem_reverse.1 (mem_of_lookup h))
  · refine lookup_of_unique (fun a' ha => ?_) (List.mem_reverse.2 (mem_entries.2 h))
    have ha := mem_entries.1 (List.mem_reverse.1 ha)
    rw [h] at ha
    exact (Option.some.inj ha).symm

theorem insertAll_insert (m other : OrderedMap κ α) (k : κ) (a : α) :
    m.insertAll (other.insert k a) = (m.insertAll other).insert k a := by
  refine ext_get? fun j => ?_
  rw [get?_insertAll, get?_insert, get?_insert, get?_insertAll]
  split <;> rfl

omit [Std.LawfulEqOrd κ] in
@[simp] theorem insertAll_empty (m : OrderedMap κ α) : m.insertAll ∅ = m := rfl

@[simp] theorem empty_insertAll (m : OrderedMap κ α) :
    (∅ : OrderedMap κ α).insertAll m = m := by
  refine ext_get? fun k => ?_
  rw [get?_insertAll, get?_empty, Option.or_none]

/-- A map is made again from its listing. -/
theorem ofList_entries (m : OrderedMap κ α) : ofList m.entries = m := m.empty_insertAll

/-- After keeping some values a key is looked up as before if its value is kept. -/
theorem get?_filter (m : OrderedMap κ α) (p : α → Bool) (k : κ) :
    (m.filter p).get? k = (m.get? k).filter p := by
  refine Option.ext fun a => ?_
  rw [← mem_entries, Option.filter_eq_some_iff, ← mem_entries]
  exact List.mem_filter

end

@[simp] theorem values_filter (m : OrderedMap κ α) (p : α → Bool) :
    (m.filter p).values = m.values.filter p :=
  (List.filter_map ..).symm

/-! ## Other values under the same keys -/

/-- The map with `f` applied to every value. -/
def map (f : α → β) (m : OrderedMap κ α) : OrderedMap κ β :=
  ⟨m.entries.map fun e => (e.1, f e.2), List.pairwise_map.2 m.increasing⟩

@[simp] theorem values_map (f : α → β) (m : OrderedMap κ α) :
    (m.map f).values = m.values.map f := by
  simp only [values, map, List.map_map]
  rfl

theorem lookup_map (f : α → β) (k : κ) :
    ∀ l : List (κ × α), lookup k (l.map fun e => (e.1, f e.2)) = (lookup k l).map f
  | [] => rfl
  | (k', a) :: rest => by
    simp only [List.map_cons, lookup, lookup_map f k rest]
    split <;> rfl

@[simp] theorem get?_map (f : α → β) (m : OrderedMap κ α) (k : κ) :
    (m.map f).get? k = (m.get? k).map f :=
  lookup_map ..

@[simp] theorem contains_map (f : α → β) (m : OrderedMap κ α) (k : κ) :
    (m.map f).contains k = m.contains k := by
  rw [contains, get?_map, Option.isSome_map]
  rfl

@[simp] theorem size_map (f : α → β) (m : OrderedMap κ α) : (m.map f).size = m.size :=
  List.length_map ..

section

variable [Std.TransOrd κ] [Std.LawfulEqOrd κ]

theorem map_insert (f : α → β) (m : OrderedMap κ α) (k : κ) (a : α) :
    (m.insert k a).map f = (m.map f).insert k (f a) := by
  refine ext_get? fun j => ?_
  rw [get?_map, get?_insert, get?_insert, get?_map]
  split <;> rfl

theorem map_erase (f : α → β) (m : OrderedMap κ α) (k : κ) :
    (m.erase k).map f = (m.map f).erase k := by
  refine ext_get? fun j => ?_
  rw [get?_map, get?_erase, get?_erase, get?_map]
  split <;> rfl

omit [Std.TransOrd κ] in
/-- Where every value knows its key, to filter the values for a key is to look the key up. -/
theorem filter_lookup_key [DecidableEq κ] (key : α → κ) (k : κ) :
    ∀ {l : List (κ × α)}, l.Pairwise (fun a b => compare a.1 b.1 = .lt) →
      (∀ e ∈ l, key e.2 = e.1) →
      (l.map (·.2)).filter (fun a => key a = k) = (lookup k l).toList
  | [], _, _ => rfl
  | (k', a) :: rest, hl, hkey => by
    -- the keys after the first entry are larger, so at most one entry has the key
    obtain ⟨hhead, hrest⟩ := List.pairwise_cons.1 hl
    have ih := filter_lookup_key key k hrest fun e he => hkey e (List.mem_cons_of_mem _ he)
    have ha : key a = k' := hkey _ (List.mem_cons_self ..)
    rw [List.map_cons, lookup]
    by_cases hk : k' = k
    · subst hk
      rw [lookup_eq_none_of_lt hhead] at ih
      rw [List.filter_cons_of_pos (by simp [ha]), ih, if_pos Std.ReflCmp.compare_self]
      rfl
    · have hne : compare k k' ≠ .eq := fun h => hk (Std.LawfulEqCmp.eq_of_compare h).symm
      rw [List.filter_cons_of_neg (by simp [ha, hk]), ih, if_neg hne]

/-- Selecting the values of one key leaves what the key is looked up as. -/
theorem values_filter_key [DecidableEq κ] {m : OrderedMap κ α} {key : α → κ}
    (hkey : ∀ k a, m.get? k = some a → key a = k) (k : κ) :
    m.values.filter (fun a => key a = k) = (m.get? k).toList :=
  filter_lookup_key key k m.increasing fun e he => hkey e.1 e.2 (mem_entries.1 he)

end

/-! ## The number of entries

Sizes are only bounded from above, since an entry that is written may take the place of another. -/

theorem size_erase_le (m : OrderedMap κ α) (k : κ) : (m.erase k).size ≤ m.size :=
  List.length_filter_le ..

theorem length_place_le (k : κ) (a : α) (l : List (κ × α)) :
    (place k a l).length ≤ l.length + 1 := by
  induction l with
  | nil => exact Nat.le_refl 1
  | cons e rest ih =>
    obtain ⟨k', a'⟩ := e
    rw [place]
    split <;> simp only [List.length_cons] <;> omega

variable [Std.TransOrd κ]

/-- An insertion adds at most one entry, and none if the key is there. -/
theorem size_foldl_insert_le (l : List (κ × α)) (m : OrderedMap κ α) :
    (l.foldl (fun m e => m.insert e.1 e.2) m).size ≤ l.length + m.size := by
  induction l generalizing m with
  | nil => exact Nat.le_of_eq (Nat.zero_add _).symm
  | cons e rest ih =>
    have one : (m.insert e.1 e.2).size ≤ m.size + 1 := length_place_le e.1 e.2 m.entries
    have more := ih (m.insert e.1 e.2)
    rw [List.foldl_cons, List.length_cons]
    omega

theorem size_ofList_le (l : List (κ × α)) : (ofList l).size ≤ l.length :=
  size_foldl_insert_le l empty

end Telemetry.OrderedMap
