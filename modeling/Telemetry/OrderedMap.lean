/-!
# Maps kept in key order

A finite map is the list of its entries with strictly increasing keys. The list is the whole
content of the map, so two maps with the same entries are equal, and listing a map is reading it
off. Documents are such maps from field names to values, a collection is one from ids to documents.

* `get?_insert` and `get?_erase` say what a write does to every later lookup.
* `ext_get?` says that a map is determined by its lookups.
-/

namespace Telemetry

universe u v

variable {κ : Type u} {α : Type v} [Ord κ]

/-- A finite map, listed in increasing order of its keys. The order is a field of the map, so no key
can be listed twice and every operation has to keep it. -/
structure OrderedMap (κ : Type u) (α : Type v) [Ord κ] where
  /-- the entries, each key once, smallest key first -/
  entries : List (κ × α)
  /-- the keys increase strictly -/
  increasing : entries.Pairwise fun a b => compare a.1 b.1 = .lt

namespace OrderedMap

/-- A map is the list of its entries; the proof that they increase makes no difference. -/
theorem ext_entries {m m' : OrderedMap κ α} (h : m.entries = m'.entries) : m = m' := by
  cases m; cases m'; cases h; rfl

instance [DecidableEq κ] [DecidableEq α] : DecidableEq (OrderedMap κ α) := fun m m' =>
  if h : m.entries = m'.entries then isTrue (ext_entries h)
  else isFalse fun e => h (congrArg entries e)

/-- The map without entries. -/
def empty : OrderedMap κ α := ⟨[], .nil⟩

instance : EmptyCollection (OrderedMap κ α) := ⟨empty⟩
instance : Inhabited (OrderedMap κ α) := ⟨empty⟩

/-- The number of entries. -/
def size (m : OrderedMap κ α) : Nat := m.entries.length

/-- The keys, smallest first. -/
def keys (m : OrderedMap κ α) : List κ := m.entries.map (·.1)

/-- The values, in the order of their keys. -/
def values (m : OrderedMap κ α) : List α := m.entries.map (·.2)

/-- The first value listed under a key equal to `k`. In a map it is the only one, as its keys
increase strictly. -/
def lookup (k : κ) : List (κ × α) → Option α
  | [] => none
  | (k', a) :: rest => if compare k k' = .eq then some a else lookup k rest

/-- The value of a key, if it has one. -/
def get? (m : OrderedMap κ α) (k : κ) : Option α := lookup k m.entries

/-- Whether a key has a value. -/
def contains (m : OrderedMap κ α) (k : κ) : Bool := (m.get? k).isSome

/-! ## Writing -/

/-- Put an entry where its key belongs, in place of an entry with the same key. In an increasing
list the key is found, or a place before the first larger one. -/
def place (k : κ) (a : α) : List (κ × α) → List (κ × α)
  | [] => [(k, a)]
  | (k', a') :: rest =>
    match compare k k' with
    | .lt => (k, a) :: (k', a') :: rest
    | .eq => (k, a) :: rest
    | .gt => (k', a') :: place k a rest

/-- Whatever is listed after an entry has been placed is that entry or was listed before. -/
theorem mem_place {k : κ} {a : α} {e : κ × α} :
    ∀ {l : List (κ × α)}, e ∈ place k a l → e = (k, a) ∨ e ∈ l
  | [], h => by simpa [place] using h
  | (k', a') :: rest, h => by
    simp only [place] at h
    split at h
    · simpa using h
    · rcases List.mem_cons.1 h with h | h
      · exact .inl h
      · exact .inr (List.mem_cons_of_mem _ h)
    · rcases List.mem_cons.1 h with h | h
      · exact .inr (h ▸ List.mem_cons_self ..)
      · exact (mem_place h).imp_right (List.mem_cons_of_mem _)

variable [Std.TransOrd κ]

/-- Placing an entry keeps the keys increasing, which is what makes `insert` an operation on maps.
-/
theorem place_increasing (k : κ) (a : α) :
    ∀ {l : List (κ × α)}, l.Pairwise (fun a b => compare a.1 b.1 = .lt) →
      (place k a l).Pairwise fun a b => compare a.1 b.1 = .lt
  | [], _ => by simp [place]
  | (k', a') :: rest, h => by
    obtain ⟨hhead, hrest⟩ := List.pairwise_cons.1 h
    simp only [place]
    split <;> rename_i hk
    · refine List.pairwise_cons.2 ⟨fun e he => ?_, h⟩
      rcases List.mem_cons.1 he with rfl | he
      · exact hk
      · exact Std.TransCmp.lt_trans hk (hhead e he)
    · exact List.pairwise_cons.2
        ⟨fun e he => Std.TransCmp.lt_of_eq_of_lt hk (hhead e he), hrest⟩
    · refine List.pairwise_cons.2 ⟨fun e he => ?_, place_increasing k a hrest⟩
      rcases mem_place he with rfl | he
      · exact Std.OrientedCmp.lt_of_gt hk
      · exact hhead e he

/-- Set the value of a key, whether it has had one or not. The size grows only if it has not. -/
def insert (m : OrderedMap κ α) (k : κ) (a : α) : OrderedMap κ α :=
  ⟨place k a m.entries, place_increasing k a m.increasing⟩

/-- The map of a list of entries; of two entries with one key the later one counts, as if they were
written in turn. -/
def ofList (l : List (κ × α)) : OrderedMap κ α :=
  l.foldl (fun m e => m.insert e.1 e.2) empty

/-- Set every key of `other` to its value there, and leave the others. Where both have a key the
value of `other` counts. -/
def insertAll (m other : OrderedMap κ α) : OrderedMap κ α :=
  other.entries.foldl (fun m e => m.insert e.1 e.2) m

omit [Std.TransOrd κ] in
/-- What is left of a list after some entries are dropped is as increasing as the list. -/
theorem filter_increasing (p : κ × α → Bool) {l : List (κ × α)}
    (h : l.Pairwise fun a b => compare a.1 b.1 = .lt) :
    (l.filter p).Pairwise fun a b => compare a.1 b.1 = .lt :=
  List.Pairwise.sublist List.filter_sublist h

omit [Std.TransOrd κ] in
/-- Keep the entries whose value satisfies `p`. The order of the rest does not change, so nothing
has to be placed again. -/
def filter (m : OrderedMap κ α) (p : α → Bool) : OrderedMap κ α :=
  ⟨m.entries.filter fun e => p e.2, filter_increasing _ m.increasing⟩

omit [Std.TransOrd κ] in
/-- Remove a key; there may be nothing under it, and then nothing changes. -/
def erase (m : OrderedMap κ α) (k : κ) : OrderedMap κ α :=
  ⟨m.entries.filter fun e => compare k e.1 != .eq, filter_increasing _ m.increasing⟩

/-! ## Lookups after a write -/

omit [Std.TransOrd κ] in
@[simp] theorem get?_empty (k : κ) : (∅ : OrderedMap κ α).get? k = none := rfl

/-- What is found after an entry has been placed: its value under its key, and under all other keys
what was found before. The list need not be increasing for this. -/
theorem lookup_place (k k' : κ) (a : α) (l : List (κ × α)) :
    lookup k' (place k a l) = if compare k' k = .eq then some a else lookup k' l := by
  induction l with
  | nil => rfl
  | cons e rest ih =>
    obtain ⟨k'', a''⟩ := e
    simp only [place]
    -- the entry goes before this one, takes its place, or goes somewhere behind it
    split <;> rename_i hk
    · rfl
    · simp only [lookup]
      by_cases h : compare k' k = .eq
      · simp [h]
      · have : compare k' k'' ≠ .eq := fun h' =>
          h (Std.TransCmp.eq_trans h' (Std.OrientedCmp.eq_symm hk))
        simp [h, this]
    · simp only [lookup, ih]
      by_cases h : compare k' k'' = .eq
      · have : compare k' k ≠ .eq := fun h' => by
          have := Std.TransCmp.eq_trans (Std.OrientedCmp.eq_symm h') h
          rw [hk] at this
          cases this
        simp [h, this]
      · simp [h]

/-- What is found after a key has been set: its new value, and under all other keys what was found
before. This is all that later proofs use of `insert`. -/
@[simp] theorem get?_insert (m : OrderedMap κ α) (k k' : κ) (a : α) :
    (m.insert k a).get? k' = if compare k' k = .eq then some a else m.get? k' :=
  lookup_place ..

/-- What is found after the entries of a key have been dropped: nothing under it, and under all
other keys what was found before. -/
theorem lookup_filter_ne (k k' : κ) (l : List (κ × α)) :
    lookup k' (l.filter fun e => compare k e.1 != .eq)
      = if compare k' k = .eq then none else lookup k' l := by
  induction l with
  | nil => simp [lookup]
  | cons e rest ih =>
    by_cases he : compare k e.1 = .eq
    · rw [List.filter_cons_of_neg (by simp [he]), ih]
      by_cases h : compare k' k = .eq
      · simp [h]
      · have : compare k' e.1 ≠ .eq := fun h' =>
          h (Std.TransCmp.eq_trans h' (Std.OrientedCmp.eq_symm he))
        simp [h, lookup, this]
    · rw [List.filter_cons_of_pos (by simp [he])]
      simp only [lookup, ih]
      by_cases h : compare k' e.1 = .eq
      · have : compare k' k ≠ .eq := fun h' =>
          he (Std.TransCmp.eq_trans (Std.OrientedCmp.eq_symm h') h)
        simp [h, this]
      · simp [h]

/-- What is found after a key has been removed: nothing under it, and under all other keys what was
found before. This is all that later proofs use of `erase`. -/
@[simp] theorem get?_erase (m : OrderedMap κ α) (k k' : κ) :
    (m.erase k).get? k' = if compare k' k = .eq then none else m.get? k' :=
  lookup_filter_ne ..

/-! ## A map is what its lookups say -/

omit [Std.TransOrd κ] in
/-- A key below all that are listed has no value. -/
theorem lookup_eq_none_of_lt {k : κ} :
    ∀ {l : List (κ × α)}, (∀ e ∈ l, compare k e.1 = .lt) → lookup k l = none
  | [], _ => rfl
  | e :: rest, h => by
    have hk := h e (List.mem_cons_self ..)
    rw [lookup, if_neg (by simp [hk])]
    exact lookup_eq_none_of_lt fun e he => h e (List.mem_cons_of_mem _ he)

/-- Increasing lists with the same look-ups are equal. Their first keys must be equal, for the
smaller of two would be found in one list only. -/
theorem eq_of_lookup_eq [Std.LawfulEqOrd κ] :
    ∀ {l l' : List (κ × α)}, l.Pairwise (fun a b => compare a.1 b.1 = .lt) →
      l'.Pairwise (fun a b => compare a.1 b.1 = .lt) → (∀ k, lookup k l = lookup k l') → l = l'
  | [], [], _, _, _ => rfl
  | [], (k, a) :: rest, _, _, h => by simpa [lookup] using h k
  | (k, a) :: rest, [], _, _, h => by simpa [lookup] using h k
  | (k, a) :: rest, (k', a') :: rest', hl, hl', h => by
    obtain ⟨hhead, hrest⟩ := List.pairwise_cons.1 hl
    obtain ⟨hhead', hrest'⟩ := List.pairwise_cons.1 hl'
    have none_of_lt {i j : κ} {b : α} {l : List (κ × α)} (hij : compare i j = .lt)
        (hj : ∀ e ∈ l, compare j e.1 = .lt) : lookup i ((j, b) :: l) = none :=
      lookup_eq_none_of_lt fun e he => by
        rcases List.mem_cons.1 he with rfl | he
        · exact hij
        · exact Std.TransCmp.lt_trans hij (hj e he)
    -- the smaller of two different keys would be looked up in one list only
    cases hk : compare k k' with
    | lt =>
      have := h k
      rw [none_of_lt hk hhead'] at this
      simp [lookup] at this
    | gt =>
      have := h k'
      rw [none_of_lt (Std.OrientedCmp.lt_of_gt hk) hhead] at this
      simp [lookup] at this
    | eq =>
      obtain rfl := Std.LawfulEqCmp.eq_of_compare hk
      have ha := h k
      simp only [lookup, Std.ReflCmp.compare_self, if_true] at ha
      obtain rfl := Option.some.inj ha
      refine congrArg _ (eq_of_lookup_eq hrest hrest' fun j => ?_)
      by_cases hj : compare j k = .eq
      · obtain rfl := Std.LawfulEqCmp.eq_of_compare hj
        rw [lookup_eq_none_of_lt hhead, lookup_eq_none_of_lt hhead']
      · simpa [lookup, hj] using h j

/-- A map is determined by its look-ups, so an equation of maps can be checked key by key. -/
theorem ext_get? [Std.LawfulEqOrd κ] {m m' : OrderedMap κ α} (h : ∀ k, m.get? k = m'.get? k) :
    m = m' :=
  ext_entries (eq_of_lookup_eq m.increasing m'.increasing h)

end OrderedMap

end Telemetry
