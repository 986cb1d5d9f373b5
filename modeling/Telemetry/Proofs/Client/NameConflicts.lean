import Telemetry.Proofs.Client.DescriptorsInUse

/-!
# When the name of a descriptor is refused

Two places look for a name that is taken: an update asks for the descriptor with the name before it
writes, and the store checks the name of every document that it is to keep. Together they decide by
the stored names alone. A new descriptor is refused if any descriptor has its name; a changed one
only if another descriptor has it, and this is found out before it is known whether there is anything
to change.

* `addition_decided`, `update_decided` — how the addition and the update of a descriptor end.
* `conflicts_decided` — both, for every store that requests reach.
-/

namespace Telemetry

open Client
open Telemetry.Action (Yields)

/-- Whether a stored descriptor has the name. -/
def NameTaken (name : String) (w : World Memory) : Prop :=
  ∃ a : ValueDescriptor, a.IsIn w ∧ a.name = name

/-- Whether a stored descriptor other than the one under the id of `d` has the name of `d`. The one
under its own id may have it, as when an update leaves the name. -/
def NameHeld (d : ValueDescriptor) (w : World Memory) : Prop :=
  ∃ a : ValueDescriptor, a.IsIn w ∧ a.id ≠ d.id ∧ a.name = d.name

/-- A request leaves the tables as they are, but for the document of a descriptor under its id. It
need not have been there before. -/
def Puts (fresh : Nat → ObjectId) (q : Request) (w : World Memory) (d : ValueDescriptor) : Prop :=
  ∀ col, (q.serve fresh w).2.store.table col
    = if col = .valueDescriptors then (w.store.table col).insert d.id d.toDocument
      else w.store.table col

/-- How the addition of a descriptor ends: it is refused for its name and changes nothing, or it is
stored and found under its name. -/
structure AdditionDecided (fresh : Nat → ObjectId) (w : World Memory) (d : ValueDescriptor)
    (now : Timestamp) : Prop where
  taken_iff : (Request.serve fresh ⟨.addValueDescriptor d, now⟩ w).1 = .error (.notUnique d.name)
    ↔ NameTaken d.name w
  refused : NameTaken d.name w →
    Refused fresh ⟨.addValueDescriptor d, now⟩ w (.notUnique d.name)
  /-- there is no descriptor under the id that is taken -/
  new : (w.store.table .valueDescriptors).get? (fresh w.taken) = none
  added : ¬NameTaken d.name w →
    (Request.serve fresh ⟨.addValueDescriptor d, now⟩ w).1 = .ok (fresh w.taken) ∧
      Puts fresh ⟨.addValueDescriptor d, now⟩ w { d with id := fresh w.taken, created := now }

/-- How the update of a descriptor ends. The name is looked at first, so a missing descriptor is
noticed only if the name is free. -/
structure UpdateDecided (fresh : Nat → ObjectId) (w : World Memory) (d : ValueDescriptor)
    (now : Timestamp) : Prop where
  held_iff : (Request.serve fresh ⟨.updateValueDescriptor d, now⟩ w).1
      = .error (.notUnique d.name)
    ↔ NameHeld d w
  missing_iff : ¬NameHeld d w →
    ((Request.serve fresh ⟨.updateValueDescriptor d, now⟩ w).1 = .error .notFound
      ↔ (w.store.table .valueDescriptors).get? d.id = none)
  refused : ∀ e, (Request.serve fresh ⟨.updateValueDescriptor d, now⟩ w).1 = .error e →
    Refused fresh ⟨.updateValueDescriptor d, now⟩ w e
  updated : ¬NameHeld d w → (w.store.table .valueDescriptors).get? d.id ≠ none →
    (Request.serve fresh ⟨.updateValueDescriptor d, now⟩ w).1 = .ok () ∧
      Puts fresh ⟨.updateValueDescriptor d, now⟩ w { d with modified := now }
  /-- the descriptor is found by the name it has now -/
  named : (Request.serve fresh ⟨.updateValueDescriptor d, now⟩ w).1 = .ok () → ∀ later,
    (Request.serve fresh ⟨.valueDescriptorByName d.name, later⟩
      (Request.serve fresh ⟨.updateValueDescriptor d, now⟩ w).2).1
        = .ok { d with modified := now }
  /-- and not by another name it has had -/
  renamed : (Request.serve fresh ⟨.updateValueDescriptor d, now⟩ w).1 = .ok () →
    ∀ old : ValueDescriptor, old.IsIn w → old.id = d.id → old.name ≠ d.name → ∀ later,
      (Request.serve fresh ⟨.valueDescriptorByName old.name, later⟩
        (Request.serve fresh ⟨.updateValueDescriptor d, now⟩ w).2).1 = .error .notFound

/-! ## Names after a descriptor has been put -/

namespace Catalogue

variable {c : Catalogue} {d : ValueDescriptor} (free : FreeFor c d)

include free

theorem named?_putDescriptor : (c.putDescriptor d free).named? d.name = some d := by
  have put : (c.descriptors.put d).get? d.id = some d :=
    (Keyed.get?_put ..).trans (if_pos rfl)
  exact named?_eq_some.2 ⟨Keyed.mem_list.2 put, rfl⟩

/-- The name that a descriptor has had belongs to none, as no other one has had it. -/
theorem named?_putDescriptor_old {old : ValueDescriptor} (hold : old ∈ c.descriptors.list)
    (hid : old.id = d.id) (hne : old.name ≠ d.name) :
    (c.putDescriptor d free).named? old.name = none := by
  refine named?_eq_none.2 fun a ha hn => ?_
  have found : (c.descriptors.put d).get? a.id = some a := Keyed.mem_list.1 ha
  rw [Keyed.get?_put] at found
  split at found
  · obtain rfl := Option.some.inj found
    exact hne hn.symm
  · next other =>
    have same : a = old := c.names a (Keyed.mem_list.2 found) old hold hn
    exact other ((congrArg ValueDescriptor.id same).trans hid)

end Catalogue

/-! ## How the requests end -/

section

variable {fresh : Nat → ObjectId} {c : Catalogue} {w : World Memory}

theorem Holds.nameTaken (h : Holds fresh c w) {name : String} :
    NameTaken name w ↔ ∃ a ∈ c.descriptors.list, a.name = name := by
  simp only [NameTaken, h.descriptor_isIn]

/-- No other descriptor has the name of `d` if and only if `d` may be put. The left side is about
the tables of the store and the right one about the catalogue. -/
theorem Holds.freeFor_iff (h : Holds fresh c w) {d : ValueDescriptor} :
    FreeFor c d ↔ ¬NameHeld d w := by
  simp only [NameHeld, h.descriptor_isIn, not_exists, not_and]
  constructor
  · intro free a ha hne hn
    exact hne (free a ha hn)
  · intro free a ha hn
    by_contra hne
    exact free a ha hne hn

/-- A request that puts a descriptor into the catalogue puts its document into the tables. -/
theorem Holds.puts (h : Holds fresh c w) (hopen : w.store.closed = false) {q : Request}
    {a : q.operation.Answer} {d : ValueDescriptor} {free : FreeFor c d} {taken : Nat}
    (hy : Yields ⟨q.now, fresh⟩ q.operation.action ⟨c, w.taken⟩ (.ok a)
      ⟨c.putDescriptor d free, taken⟩) :
    (q.serve fresh w).1 = .ok a ∧ Puts fresh q w d := by
  obtain ⟨n, hserve⟩ := h.serve_eq hopen hy
  rw [Puts, hserve]
  refine ⟨rfl, fun col => ?_⟩
  rw [h.table]
  cases col with
  | valueDescriptors => exact c.descriptors.table_put d
  | events | readings => rfl

/-- The addition of a descriptor is decided by whether its name is taken, and by nothing else. Its
id is new, so that cannot clash. -/
theorem addition_decided (h : Holds fresh c w) (hopen : w.store.closed = false)
    (distinct : Distinct fresh (w.taken + 1)) (d : ValueDescriptor) (now : Timestamp) :
    AdditionDecided fresh w d now := by
  have unused : ¬c.Has (fresh w.taken) := h.2.new distinct (Nat.le_refl _) (Nat.lt_succ_self _)
  have new : c.descriptors.get? (fresh w.taken) = none :=
    Keyed.get?_of_not_has fun has => unused (.inr (.inr has))
  have refused (taken : NameTaken d.name w) :
      Refused fresh ⟨.addValueDescriptor d, now⟩ w (.notUnique d.name) := by
    -- it is the store that refuses: an addition looks for no name before it writes
    obtain ⟨a, ha, hn⟩ := h.nameTaken.1 taken
    exact h.refused hopen
      (addValueDescriptor_taken (v := ⟨c, w.taken⟩) new (Catalogue.named?_eq_some.2 ⟨ha, hn⟩))
  have added (free : ¬NameTaken d.name w) :
      (Request.serve fresh ⟨.addValueDescriptor d, now⟩ w).1 = .ok (fresh w.taken) ∧
        Puts fresh ⟨.addValueDescriptor d, now⟩ w
          { d with id := fresh w.taken, created := now } := by
    have unnamed : c.named? d.name = none :=
      Catalogue.named?_eq_none.2 fun a ha hn => free (h.nameTaken.2 ⟨a, ha, hn⟩)
    obtain ⟨_, hy⟩ := @addValueDescriptor_new ⟨now, fresh⟩ ⟨c, w.taken⟩ d new unnamed
    exact h.puts (q := ⟨.addValueDescriptor d, now⟩) hopen hy
  refine ⟨⟨fun taken => ?_, fun taken => (refused taken).1⟩, refused,
    h.get?_of_not_has unused .valueDescriptors, added⟩
  by_contra free
  rw [(added free).1] at taken
  cases taken

/-- An update that is refused, for the right reason. The store is as before, but for the calls it
has counted. -/
theorem UpdateDecided.of_refused {d : ValueDescriptor} {now : Timestamp} {e : StoreError}
    (h : Refused fresh ⟨.updateValueDescriptor d, now⟩ w e)
    (held_iff : e = .notUnique d.name ↔ NameHeld d w)
    (missing : ¬NameHeld d w → e = .notFound ∧ (w.store.table .valueDescriptors).get? d.id = none) :
    UpdateDecided fresh w d now where
  held_iff := by rw [h.1, Except.error.injEq, held_iff]
  missing_iff free := by
    obtain ⟨rfl, gone⟩ := missing free
    exact iff_of_true h.1 gone
  refused e' he := by
    obtain rfl := Except.error.inj (h.1.symm.trans he)
    exact h
  updated free there := absurd (missing free).2 there
  named ok := by
    rw [h.1] at ok
    cases ok
  renamed ok := by
    rw [h.1] at ok
    cases ok

/-- An update under a free name, of a descriptor that is there. -/
theorem UpdateDecided.of_stored (h : Holds fresh c w) (hopen : w.store.closed = false)
    {d old : ValueDescriptor} (free : FreeFor c d) (hget : c.descriptors.get? d.id = some old)
    (now : Timestamp) : UpdateDecided fresh w d now := by
  let changed : ValueDescriptor := { d with modified := now }
  have free' : FreeFor c changed := free
  have stored : Yields ⟨now, fresh⟩ (updateValueDescriptor d) ⟨c, w.taken⟩ (.ok ())
      ⟨c.putDescriptor changed free', w.taken⟩ := updateValueDescriptor_stored free hget
  obtain ⟨ok, puts⟩ := h.puts (q := ⟨.updateValueDescriptor d, now⟩) hopen stored
  obtain ⟨n, hserve⟩ := h.serve_eq (q := ⟨.updateValueDescriptor d, now⟩) hopen stored
  have unheld : ¬NameHeld d w := h.freeFor_iff.1 free
  have there : (w.store.table .valueDescriptors).get? d.id = some old.toDocument := by
    rw [h.get?_descriptors, hget]
    rfl
  -- both statements about later look-ups ask the same catalogue, with different names
  have byName (name : String) (later : Timestamp) :
      (Request.serve fresh ⟨.valueDescriptorByName name, later⟩
        (Request.serve fresh ⟨.updateValueDescriptor d, now⟩ w).2).1
          = orNotFound ((c.putDescriptor changed free').named? name) := by
    rw [hserve]
    have found : Yields ⟨later, fresh⟩ (valueDescriptorByName name)
        ⟨c.putDescriptor changed free', w.taken⟩ _ _ := valueDescriptorByName_yields name
    obtain ⟨n', hrun⟩ := found n
    exact congrArg Prod.fst hrun
  refine ⟨?held, ?missing, ?refused, fun _ _ => ⟨ok, puts⟩, fun _ later => ?named,
    fun _ a ha hid hne later => ?renamed⟩
  case held =>
    rw [ok]
    exact iff_of_false nofun unheld
  case missing =>
    rw [ok, there]
    exact fun _ => iff_of_false nofun nofun
  case refused =>
    intro e he
    rw [ok] at he
    cases he
  case named =>
    exact (byName _ _).trans (congrArg orNotFound (Catalogue.named?_putDescriptor free'))
  case renamed =>
    have gone : (c.putDescriptor changed free').named? a.name = none :=
      Catalogue.named?_putDescriptor_old free' (h.descriptor_isIn.1 ha) hid hne
    exact (byName _ _).trans (congrArg orNotFound gone)

/-- The change of a descriptor is decided by who has its name, and then by whether it is there. So a
missing descriptor with a name in use is refused for the name. -/
theorem update_decided (h : Holds fresh c w) (hopen : w.store.closed = false)
    (d : ValueDescriptor) (now : Timestamp) : UpdateDecided fresh w d now := by
  by_cases free : FreeFor c d
  · -- the look-up finds no other descriptor of the name, so the store decides by the id
    cases hget : c.descriptors.get? d.id with
    | none =>
      have unheld : ¬NameHeld d w := h.freeFor_iff.1 free
      have gone : (w.store.table .valueDescriptors).get? d.id = none := by
        rw [h.get?_descriptors, hget]
        rfl
      exact .of_refused (h.refused hopen (updateValueDescriptor_missing free hget))
        (iff_of_false nofun unheld) fun _ => ⟨rfl, gone⟩
    | some old => exact .of_stored h hopen free hget now
  · -- the look-up ends the update before it is known whether there is anything to change
    have held : NameHeld d w := not_not.1 (mt h.freeFor_iff.2 free)
    obtain ⟨a, ha, hne⟩ := exists_of_not_freeFor free
    exact .of_refused (h.refused hopen (updateValueDescriptor_taken ha hne)) (iff_of_true rfl held)
      fun unheld => absurd held unheld

end

/-- In every open store that requests reach, a descriptor is added exactly if no stored descriptor
has its name, and updated exactly if no other descriptor has its name and there is one under its id.
Nothing is changed by an error, and no other document by an answer. -/
theorem conflicts_decided {fresh : Nat → ObjectId} {w : World Memory} (h : Reached fresh w)
    (hopen : w.store.closed = false) (d : ValueDescriptor) (now : Timestamp) :
    (Distinct fresh (w.taken + 1) → AdditionDecided fresh w d now) ∧
      UpdateDecided fresh w d now := by
  obtain ⟨c, hc⟩ := h.holds
  exact ⟨fun distinct => addition_decided hc hopen distinct d now, update_decided hc hopen d now⟩

/-- The name of a stored descriptor is refused to a new one and left to itself. -/
theorem conflicts_decided_of_described :
    let w := (describe.serve .numbered firstWorld).2
    Reached .numbered w ∧ w.store.closed = false ∧ Distinct .numbered (w.taken + 1) ∧
      Refused .numbered ⟨.addValueDescriptor (.new "temperature"), 8⟩ w (.notUnique "temperature") ∧
      (Request.serve .numbered ⟨.updateValueDescriptor described, 8⟩ w).1 = .ok () ∧
      (Request.serve .numbered ⟨.updateValueDescriptor (.new "temperature"), 8⟩ w).1
        = .error (.notUnique "temperature") := by
  intro w
  have reached : Reached .numbered w := reachable_firstWorld.reached.serve describe
  obtain ⟨free, n, hw⟩ := describe_serve
  have hw : w = World.storing ⟨firstCatalogue.putDescriptor described free, 2⟩ n := hw
  have opened : w.store.closed = false := by rw [hw]; rfl
  have distinct : Distinct .numbered (w.taken + 1) := by
    rw [hw]
    exact distinct_numbered (n := 3) (by decide)
  have isIn_iff (a : ValueDescriptor) : a.IsIn w ↔ a = described := by
    have only : ((∅ : Keyed ValueDescriptor).put described).list = [described] := rfl
    rw [ValueDescriptor.IsIn, hw]
    refine (Keyed.get?_table_eq_some (s := (∅ : Keyed ValueDescriptor).put described)).trans ?_
    rw [only, List.mem_singleton]
  have stored : described.IsIn w := (isIn_iff _).2 rfl
  have unheld : ¬NameHeld described w := by
    rintro ⟨a, ha, hne, -⟩
    exact hne (congrArg _ ((isIn_iff a).1 ha))
  have there : (w.store.table .valueDescriptors).get? described.id ≠ none :=
    stored.symm ▸ Option.some_ne_none _
  obtain ⟨add, update⟩ := conflicts_decided reached opened (.new "temperature") 8
  obtain ⟨-, keep⟩ := conflicts_decided reached opened described 8
  exact ⟨reached, opened, distinct, (add distinct).refused ⟨described, stored, rfl⟩,
    (keep.updated unheld there).1, update.held_iff.2 ⟨described, stored, by decide, rfl⟩⟩

end Telemetry
