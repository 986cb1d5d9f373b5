import Telemetry.Proofs.Client.Readings

/-!
# What the operations on value descriptors do

The name of a descriptor leads to it, as no other one has it. `FreeFor s d` says that a descriptor
may be put; adding and changing are refused if it does not hold.
-/

namespace Telemetry

open Client
open Telemetry.Action (Yields)

namespace ValueDescriptor

/-! ## The conditions that are asked of descriptors -/

/-- The filter for a name selects the descriptors of the name. The lemmas after this one say the
same of the other conditions. -/
theorem holds_name (d : ValueDescriptor) (name : String) :
    (Filter.eq "name" (.string name)).holds d.toDocument = decide (d.name = name) := by
  refine Filter.holds_eq_string ?_ name
  simp [get?_toDocument, fields, OrderedMap.lookup]

theorem holds_uomLabel (d : ValueDescriptor) (uomLabel : String) :
    (Filter.eq "uomLabel" (.string uomLabel)).holds d.toDocument
      = decide (d.uomLabel = uomLabel) := by
  refine Filter.holds_eq_string ?_ uomLabel
  simp [get?_toDocument, fields, OrderedMap.lookup]

theorem holds_type (d : ValueDescriptor) (valueType : String) :
    (Filter.eq "type" (.string valueType)).holds d.toDocument
      = decide (d.valueType = valueType) := by
  refine Filter.holds_eq_string ?_ valueType
  simp [get?_toDocument, fields, OrderedMap.lookup]

theorem holds_label (d : ValueDescriptor) (label : String) :
    (Filter.eq "labels" (.string label)).holds d.toDocument = decide (label ∈ d.labels) := by
  refine Filter.holds_eq_strings ?_ label
  simp [get?_toDocument, fields, OrderedMap.lookup]

end ValueDescriptor

namespace Client

variable {around : Surroundings} {v : World Catalogue}

/-! ## Queries -/

theorem getValueDescriptors_yields {f : Filter} {p : ValueDescriptor → Bool}
    (hf : ∀ d : ValueDescriptor, f.holds d.toDocument = p d) :
    Yields around (getValueDescriptors f) v (.ok (v.store.descriptors.list.filter p)) v :=
  (Yields.find (s := v.store.descriptors) (fun _ => rfl) hf).bind (.decodeAll _)

/-- The first descriptor with a property. -/
theorem getValueDescriptor_yields {f : Filter} {p : ValueDescriptor → Bool}
    {found : Option ValueDescriptor} (hf : ∀ d : ValueDescriptor, f.holds d.toDocument = p d)
    (hp : v.store.descriptors.list.filter p = found.toList) :
    Yields around (getValueDescriptor f) v (orNotFound found) v := by
  have first : Yields around (Action.findOne .valueDescriptors f) v
      (orNotFound ((v.store.descriptors.list.filter p).head?.map ValueDescriptor.toDocument)) v :=
    Yields.findOne (s := v.store.descriptors) (fun _ => rfl) hf
  rw [hp] at first
  cases found with
  | none => exact first.stop _
  | some d => exact first.bind (Yields.decode d)

theorem valueDescriptors_yields :
    Yields around valueDescriptors v (.ok v.store.descriptors.list) v :=
  (Yields.findAll (s := v.store.descriptors) fun _ => rfl).bind (.decodeAll _)

theorem valueDescriptorCount_yields :
    Yields around valueDescriptorCount v
      (.ok (UInt64.ofNat v.store.descriptors.list.length)) v :=
  Yields.countAll fun _ => rfl

theorem valueDescriptorByName_yields (name : String) :
    Yields around (valueDescriptorByName name) v (orNotFound (v.store.named? name)) v :=
  getValueDescriptor_yields (fun d => d.holds_name name) (v.store.filter_name name)

/-- A name without a descriptor is no error. -/
theorem ifFound_byName_yields (name : String) :
    Yields around (ifFound (valueDescriptorByName name)) v (.ok (v.store.named? name)) v := by
  have found : Yields around (valueDescriptorByName name) v
      (orNotFound (v.store.named? name)) v := valueDescriptorByName_yields name
  cases h : v.store.named? name <;> rw [h] at found
  · exact found.ifFound_none
  · exact found.ifFound_some

/-- Names are answered with their descriptors, in the order of the names. A name that comes twice is
answered twice. -/
theorem valueDescriptorsByName_yields :
    ∀ names : List String, Yields around (valueDescriptorsByName names) v
      (.ok (names.filterMap v.store.named?)) v
  | [] => .pure _
  | name :: names => by
    refine (ifFound_byName_yields name).bind ((valueDescriptorsByName_yields names).bind ?_)
    rw [List.filterMap_cons]
    cases v.store.named? name <;> exact .pure _

theorem getValueDescriptor_byId (k : ObjectId) :
    Yields around (getValueDescriptor (byId k)) v
      (orNotFound (v.store.descriptors.get? k)) v :=
  getValueDescriptor_yields (fun d => Filter.holds_byId (Entity.get?_id d) k)
    (v.store.descriptors.list_filter_id k)

/-- The descriptor under an id is given, or what is wrong with the text of the id. -/
theorem valueDescriptorById_yields (text : String) :
    Yields around (valueDescriptorById text) v (v.store.descriptors.fetch text) v := by
  rcases hp : ObjectId.parse? text with _ | k
  · rw [Keyed.fetch_of_malformed hp]
    exact .malformedId hp _
  · rw [Keyed.fetch_of_parse hp]
    exact .wellFormedId hp (getValueDescriptor_byId k)

theorem valueDescriptorsByUomLabel_yields (uomLabel : String) :
    Yields around (valueDescriptorsByUomLabel uomLabel) v
      (.ok (v.store.descriptors.list.filter fun d => d.uomLabel = uomLabel)) v :=
  getValueDescriptors_yields fun d => d.holds_uomLabel uomLabel

theorem valueDescriptorsByLabel_yields (label : String) :
    Yields around (valueDescriptorsByLabel label) v
      (.ok (v.store.descriptors.list.filter fun d => label ∈ d.labels)) v :=
  getValueDescriptors_yields fun d => d.holds_label label

theorem valueDescriptorsByType_yields (valueType : String) :
    Yields around (valueDescriptorsByType valueType) v
      (.ok (v.store.descriptors.list.filter fun d => d.valueType = valueType)) v :=
  getValueDescriptors_yields fun d => d.holds_type valueType

/-! ## Writes -/

/-- No other descriptor has the name of this one. The descriptor may itself be stored under its id,
with this name or with another. -/
def FreeFor (c : Catalogue) (d : ValueDescriptor) : Prop :=
  ∀ a ∈ c.descriptors.list, a.name = d.name → a.id = d.id

/-- The descriptor as it is added. -/
def stampedDescriptor (around : Surroundings) (first : Nat) (d : ValueDescriptor) :
    ValueDescriptor :=
  { d with id := around.fresh first, created := around.now }

section

variable {d : ValueDescriptor}

/-- A descriptor is refused if its name is taken, with that name in the error. An id has been taken
all the same. -/
theorem addValueDescriptor_taken (hnew : v.store.descriptors.get? (around.fresh v.taken) = none)
    {a : ValueDescriptor} (ha : v.store.named? d.name = some a) :
    Yields around (addValueDescriptor d) v (.error (.notUnique d.name))
      ⟨v.store, v.taken + 1⟩ := by
  obtain ⟨ha, hn⟩ := Catalogue.named?_eq_some.1 ha
  have refused : Yields around
      (Action.insertOne .valueDescriptors (stampedDescriptor around v.taken d).toDocument)
      ⟨v.store, v.taken + 1⟩ (.error (.notUnique d.name)) ⟨v.store, v.taken + 1⟩ :=
    .insert fun n => by
      have hinsert := Memory.insert_descriptor (m := v.store.store n) (s := v.store.descriptors)
        (d := stampedDescriptor around v.taken d) rfl hnew
      rwa [if_pos ⟨a, ha, hn⟩] at hinsert
  exact Yields.clock.bind (Yields.takeId.bind ((refused.adapt (nameTaken d.name)).stop _))

/-- A descriptor with a new id and a new name is put under that id. -/
theorem addValueDescriptor_new (hnew : v.store.descriptors.get? (around.fresh v.taken) = none)
    (ha : v.store.named? d.name = none) :
    ∃ h, Yields around (addValueDescriptor d) v (.ok (around.fresh v.taken))
      ⟨v.store.putDescriptor (stampedDescriptor around v.taken d) h, v.taken + 1⟩ := by
  have unused := Catalogue.named?_eq_none.1 ha
  refine ⟨fun a ha hn => absurd hn (unused a ha), ?_⟩
  refine Yields.clock.bind (Yields.takeId.bind (Yields.bind (x := ())
    (Yields.adapt (r := .ok ()) (.insert fun n => ?_) _) (.pure _)))
  have hinsert := Memory.insert_descriptor (m := v.store.store n) (s := v.store.descriptors)
    (d := stampedDescriptor around v.taken d) rfl hnew
  rw [if_neg fun ⟨a, ha, hn⟩ => unused a ha hn] at hinsert
  exact hinsert

/-- A change is refused if another descriptor has the name. The look-up notices it, so the store is
not asked to write. -/
theorem updateValueDescriptor_taken {a : ValueDescriptor} (ha : v.store.named? d.name = some a)
    (hne : a.id ≠ d.id) :
    Yields around (updateValueDescriptor d) v (.error (.notUnique d.name)) v := by
  have found : Yields around (ifFound (valueDescriptorByName d.name)) v
      (.ok (v.store.named? d.name)) v := ifFound_byName_yields d.name
  rw [ha] at found
  refine found.bind ?_
  dsimp only
  rw [if_pos hne]
  exact (Yields.throw _).stop _

/-- Where the name is free, the update is one call of the store. It may still tell that there is no
descriptor to change. -/
theorem updateValueDescriptor_free (hfree : FreeFor v.store d) {r : Except StoreError Unit}
    {v' : World Catalogue}
    (hr : Yields around (Action.call (.update .valueDescriptors d.id
      (.replace { d with modified := around.now }.toDocument))) v r v') :
    Yields around (updateValueDescriptor d) v (r.mapError (nameTaken d.name)) v' := by
  have found : Yields around (ifFound (valueDescriptorByName d.name)) v
      (.ok (v.store.named? d.name)) v := ifFound_byName_yields d.name
  have renamed := hr.adapt (nameTaken d.name)
  unfold updateValueDescriptor
  refine Yields.bind found ?_
  cases ha : v.store.named? d.name with
  | none => exact Yields.clock.bind renamed
  | some a =>
    -- the descriptor that has the name is the one that is updated
    obtain ⟨hmem, hn⟩ := Catalogue.named?_eq_some.1 ha
    dsimp only
    rw [if_neg (not_not.2 (hfree a hmem hn))]
    exact Yields.clock.bind renamed

/-- A descriptor that is not there cannot be changed, even if its name is free. -/
theorem updateValueDescriptor_missing (hfree : FreeFor v.store d)
    (h : v.store.descriptors.get? d.id = none) :
    Yields around (updateValueDescriptor d) v (.error .notFound) v :=
  updateValueDescriptor_free hfree (.update fun n =>
    Memory.update_missing (m := v.store.store n) (s := v.store.descriptors) rfl h _)

/-- A stored descriptor is replaced by the one at hand. -/
theorem updateValueDescriptor_stored (hfree : FreeFor v.store d) {old : ValueDescriptor}
    (h : v.store.descriptors.get? d.id = some old) :
    Yields around (updateValueDescriptor d) v (.ok ())
      ⟨v.store.putDescriptor { d with modified := around.now } hfree, v.taken⟩ := by
  refine updateValueDescriptor_free hfree (r := .ok ()) (.update fun n => ?_)
  refine Memory.update_put (m := v.store.store n) (s := v.store.descriptors)
    (b := { d with modified := around.now }) rfl h rfl
    (Entity.withId_id (α := ValueDescriptor) _) ?_
  refine (Memory.checkUnique_name (d := { d with modified := around.now })).trans (if_neg ?_)
  rintro ⟨a, ha, hne, hn⟩
  exact hne (hfree a ha hn)

end

section

variable {text : String}

/-- A text under which there is no descriptor deletes nothing. -/
theorem deleteValueDescriptorById_error {e : StoreError}
    (h : v.store.descriptors.fetch text = .error e) :
    Yields around (deleteValueDescriptorById text) v (.error e) v := by
  rcases hp : ObjectId.parse? text with _ | k
  · rw [Keyed.fetch_of_malformed hp] at h
    obtain rfl := Except.error.inj h
    exact .malformedId hp _
  · rw [Keyed.fetch_of_parse hp] at h
    have found : Yields around (getValueDescriptor (byId k)) v
        (orNotFound (v.store.descriptors.get? k)) v := getValueDescriptor_byId k
    rw [h] at found
    exact .wellFormedId hp (found.stop _)

/-- What becomes of a deletion once the readings with the name of the descriptor are counted: it is
refused if there are any, and otherwise the descriptor is removed. -/
theorem deleteValueDescriptorById_counted {d : ValueDescriptor} {r : Except StoreError Unit}
    {v' : World Catalogue} (h : v.store.descriptors.fetch text = .ok d)
    (hr : Yields around
      (if 0 < UInt64.ofNat (v.store.readings.list.filter fun r => r.name = d.name).length then
        throw (.descriptorInUse d.name) else Action.deleteById .valueDescriptors text) v r v') :
    Yields around (deleteValueDescriptorById text) v r v' := by
  obtain ⟨hp, hd⟩ := Keyed.fetch_eq_ok.1 h
  have found : Yields around (getValueDescriptor (byId d.id)) v
      (orNotFound (v.store.descriptors.get? d.id)) v := getValueDescriptor_byId d.id
  rw [show v.store.descriptors.get? d.id = some d from Keyed.mem_list.1 hd] at found
  -- readings know a descriptor by its name, so it is the name that is counted
  have counted : Yields around (Action.call (.count .readings (.eq "name" (.string d.name)))) v
      (.ok (UInt64.ofNat (v.store.readings.list.filter fun r => r.name = d.name).length)) v :=
    Yields.count (s := v.store.readings) (fun _ => rfl) fun r => r.holds_name d.name
  unfold deleteValueDescriptorById
  refine .wellFormedId hp (found.bind (counted.bind ?_))
  dsimp only
  split
  · next hused =>
    rw [if_pos hused] at hr
    exact hr
  · next hunused =>
    rw [if_neg hunused] at hr
    exact hr

/-- A descriptor stays as long as the count of readings with its name is not zero. -/
theorem deleteValueDescriptorById_inUse {d : ValueDescriptor}
    (h : v.store.descriptors.fetch text = .ok d)
    (hused : 0 < UInt64.ofNat (v.store.readings.list.filter fun r => r.name = d.name).length) :
    Yields around (deleteValueDescriptorById text) v (.error (.descriptorInUse d.name)) v := by
  refine deleteValueDescriptorById_counted h ?_
  rw [if_pos hused]
  exact .throw _

/-- A descriptor is deleted if the count is zero. -/
theorem deleteValueDescriptorById_unused {d : ValueDescriptor}
    (h : v.store.descriptors.fetch text = .ok d)
    (hunused : ¬0 < UInt64.ofNat (v.store.readings.list.filter fun r => r.name = d.name).length) :
    Yields around (deleteValueDescriptorById text) v (.ok ())
      ⟨v.store.removeDescriptor d.id, v.taken⟩ := by
  refine deleteValueDescriptorById_counted h ?_
  rw [if_neg hunused]
  exact .deleteById_ok (fun _ => rfl) h fun _ => rfl

end

/-- All descriptors are deleted and counted, whatever readings there are. -/
theorem scrubAllValueDescriptors_yields :
    Yields around scrubAllValueDescriptors v
      (.ok (UInt64.ofNat v.store.descriptors.list.length)) ⟨v.store.removeDescriptors, v.taken⟩ :=
  .deleteAll fun n =>
    Memory.deleteAll_empty (m := v.store.store n) (s := v.store.descriptors) rfl

end Client

end Telemetry
