import Telemetry.Proofs.Client.Runs

/-!
# Queries read the catalogue

In a run of the client the open store is the store of a catalogue, and each query is the plain
selection from its lists that the name of the query promises: the entities with the property asked
for, in the order of their ids, and of these the first `limit` where there is a limit.

* `queries_read` — all queries at once, for every store that requests reach.
-/

namespace Telemetry

open Client Program
open Telemetry.Action (Yields)

/-- The entities are listed in increasing order of their ids. -/
theorem Keyed.list_increasing {α : Type} [Entity α] (s : Keyed α) :
    s.list.Pairwise fun a b => Entity.id a < Entity.id b := by
  refine List.pairwise_map.2 ?_
  refine s.byId.increasing.imp_of_mem fun {e e'} he he' hlt => ?_
  rw [s.keyed e.1 e.2 (OrderedMap.mem_entries.1 he),
    s.keyed e'.1 e'.2 (OrderedMap.mem_entries.1 he')]
  exact Nat.compare_eq_lt.1 hlt

/-- In a world an action answers with `x`, whatever the time is, and changes no table. Its calls are
counted, so the store itself does not stay the same. -/
def Answers {α : Type} (w : World Memory) (a : Action α) (x : α) : Prop :=
  ∀ around, (exec Memory.backend around a w).1 = .ok x ∧
    ∀ c, (exec Memory.backend around a w).2.store.table c = w.store.table c

/-- What a query answers in every surroundings it answers after any number of calls. -/
theorem Answers.of_yields {α : Type} {a : Action α} {v : World Catalogue} {x : α}
    (h : ∀ around, Yields around a v (.ok x) v) (n : Nat) : Answers (v.storing n) a x := by
  intro around
  obtain ⟨n', hrun⟩ := h around n
  rw [hrun]
  exact ⟨rfl, fun c => by cases c <;> rfl⟩

/-- Every query answers with the selection from the lists of the catalogue that it stands for. There
is a field for each query, with its order and its limit. -/
structure QueriesRead (c : Catalogue) (w : World Memory) : Prop where
  readingsByDevice : ∀ device limit, Answers w (readingsByDevice device limit)
    ((c.readings.list.filter fun r => r.device = device).take limit.toNat)
  readingsByValueDescriptor : ∀ name limit, Answers w (readingsByValueDescriptor name limit)
    ((c.readings.list.filter fun r => r.name = name).take limit.toNat)
  readingsByValueDescriptorNames : ∀ names limit,
    Answers w (readingsByValueDescriptorNames names limit)
      ((c.readings.list.filter fun r => r.name ∈ names).take limit.toNat)
  readingsByCreationTime : ∀ start stop limit,
    Answers w (readingsByCreationTime start stop limit)
      ((c.readings.list.filter fun r => start ≤ r.created ∧ r.created ≤ stop).take limit.toNat)
  readingsByDeviceAndValueDescriptor : ∀ device name limit,
    Answers w (readingsByDeviceAndValueDescriptor device name limit)
      ((c.readings.list.filter fun r => r.device = device ∧ r.name = name).take limit.toNat)
  eventsForDevice : ∀ device, Answers w (eventsForDevice device)
    ((c.events.list.filter fun e => e.device = device).map c.event)
  eventsForDeviceLimit : ∀ device limit, Answers w (eventsForDeviceLimit device limit)
    (((c.events.list.filter fun e => e.device = device).take limit.toNat).map c.event)
  eventsByCreationTime : ∀ start stop limit, Answers w (eventsByCreationTime start stop limit)
    (((c.events.list.filter fun e => start ≤ e.created ∧ e.created ≤ stop).take
      limit.toNat).map c.event)
  eventsPushed : Answers w eventsPushed
    ((c.events.list.filter fun e => 0 < e.pushed).map c.event)
  valueDescriptorsByUomLabel : ∀ uomLabel, Answers w (valueDescriptorsByUomLabel uomLabel)
    (c.descriptors.list.filter fun d => d.uomLabel = uomLabel)
  valueDescriptorsByType : ∀ valueType, Answers w (valueDescriptorsByType valueType)
    (c.descriptors.list.filter fun d => d.valueType = valueType)
  valueDescriptorsByLabel : ∀ label, Answers w (valueDescriptorsByLabel label)
    (c.descriptors.list.filter fun d => label ∈ d.labels)
  /-- the descriptors of the names in turn; the next field says what the descriptor of a name is -/
  valueDescriptorsByName : ∀ names, Answers w (valueDescriptorsByName names)
    (names.filterMap c.named?)
  named : ∀ name d, c.named? name = some d ↔ d ∈ c.descriptors.list ∧ d.name = name
  eventCount : Answers w eventCount (UInt64.ofNat c.events.list.length)
  eventCountByDevice : ∀ device, Answers w (eventCountByDevice device)
    (UInt64.ofNat (c.events.list.filter fun e => e.device = device).length)
  readingCount : Answers w readingCount (UInt64.ofNat c.readings.list.length)
  valueDescriptorCount : Answers w valueDescriptorCount
    (UInt64.ofNat c.descriptors.list.length)

/-- Every query reads the catalogue of the store. There is one field for each query, and one lemma
for each field. -/
theorem queriesRead_storing (v : World Catalogue) (n : Nat) :
    QueriesRead v.store (v.storing n) where
  readingsByDevice device limit := .of_yields (fun _ => readingsByDevice_yields device limit) n
  readingsByValueDescriptor name limit :=
    .of_yields (fun _ => readingsByValueDescriptor_yields name limit) n
  readingsByValueDescriptorNames names limit :=
    .of_yields (fun _ => readingsByValueDescriptorNames_yields names limit) n
  readingsByCreationTime start stop limit :=
    .of_yields (fun _ => readingsByCreationTime_yields start stop limit) n
  readingsByDeviceAndValueDescriptor device name limit :=
    .of_yields (fun _ => readingsByDeviceAndValueDescriptor_yields device name limit) n
  eventsForDevice device := .of_yields (fun _ => eventsForDevice_yields device) n
  eventsForDeviceLimit device limit :=
    .of_yields (fun _ => eventsForDeviceLimit_yields device limit) n
  eventsByCreationTime start stop limit :=
    .of_yields (fun _ => eventsByCreationTime_yields start stop limit) n
  eventsPushed := .of_yields (fun _ => eventsPushed_yields) n
  valueDescriptorsByUomLabel uomLabel :=
    .of_yields (fun _ => valueDescriptorsByUomLabel_yields uomLabel) n
  valueDescriptorsByType valueType :=
    .of_yields (fun _ => valueDescriptorsByType_yields valueType) n
  valueDescriptorsByLabel label := .of_yields (fun _ => valueDescriptorsByLabel_yields label) n
  valueDescriptorsByName names := .of_yields (fun _ => valueDescriptorsByName_yields names) n
  named _ _ := Catalogue.named?_eq_some
  eventCount := .of_yields (fun _ => eventCount_yields) n
  eventCountByDevice device := .of_yields (fun _ => eventCountByDevice_yields device) n
  readingCount := .of_yields (fun _ => readingCount_yields) n
  valueDescriptorCount := .of_yields (fun _ => valueDescriptorCount_yields) n

end Telemetry
