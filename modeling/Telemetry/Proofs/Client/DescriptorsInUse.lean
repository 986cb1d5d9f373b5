import Telemetry.Proofs.Client.Runs

/-!
# A descriptor in use cannot be deleted

A reading refers to its descriptor by name. The deletion of a descriptor counts the readings with
its name first, and no other operation on single entities takes a descriptor away: an update of a
descriptor may rename it, and only scrubbing removes descriptors that are in use.

* `deletion_decided` — how the deletion of a descriptor ends, for every text of an id.
* `Outcome.keepsDescriptor` — what an outcome leaves of a descriptor in use.
* `descriptor_in_use` — both, for every store that requests reach.
-/

namespace Telemetry

open Client
open Telemetry.Action (Yields)

/-- Whether a stored reading has the name. Nothing is asked of the device or the time of the
reading. -/
def NameInUse (name : String) (w : World Memory) : Prop :=
  ∃ r : Reading, r.IsIn w ∧ r.name = name

/-- A request is refused with an error, and the tables stay as they are. The calls that have been
made by then are counted. -/
def Refused (fresh : Nat → ObjectId) (q : Request) (w : World Memory) (e : StoreError) : Prop :=
  (q.serve fresh w).1 = .error e ∧
    ∀ col, (q.serve fresh w).2.store.table col = w.store.table col

/-- How the deletion of a descriptor by the text of its id ends. The four cases exclude each other,
and each names the error or the effect. -/
structure DeletionDecided (fresh : Nat → ObjectId) (w : World Memory) (text : String)
    (now : Timestamp) : Prop where
  malformed : ObjectId.isHex text = false →
    Refused fresh ⟨.deleteValueDescriptorById text, now⟩ w (.invalidIdentifier text)
  missing : ∀ k, ObjectId.parse? text = some k →
    (w.store.table .valueDescriptors).get? k = none →
      Refused fresh ⟨.deleteValueDescriptorById text, now⟩ w .notFound
  inUse : ∀ d : ValueDescriptor, ObjectId.parse? text = some d.id → d.IsIn w →
    NameInUse d.name w →
      Refused fresh ⟨.deleteValueDescriptorById text, now⟩ w (.descriptorInUse d.name)
  /-- exactly the descriptor is removed -/
  unused : ∀ d : ValueDescriptor, ObjectId.parse? text = some d.id → d.IsIn w →
    ¬NameInUse d.name w →
      (Request.serve fresh ⟨.deleteValueDescriptorById text, now⟩ w).1 = .ok () ∧
      ∀ col, (Request.serve fresh ⟨.deleteValueDescriptorById text, now⟩ w).2.store.table col
        = if col = .valueDescriptors then (w.store.table col).erase d.id else w.store.table col
  /-- there are no other cases -/
  cases : ObjectId.isHex text = false ∨ ∃ k, ObjectId.parse? text = some k ∧
    ((w.store.table .valueDescriptors).get? k = none ∨ ∃ d : ValueDescriptor, d.id = k ∧ d.IsIn w)

/-! ## Counting the readings of a name -/

/-- If the readings can be counted, the count of a name is positive exactly if a reading has it. The
bound is that of the word that the count is given in. -/
theorem count_pos_iff {rs : List Reading} (hfit : rs.length < 2 ^ 64) (name : String) :
    0 < UInt64.ofNat (rs.filter fun r => r.name = name).length ↔ ∃ r ∈ rs, r.name = name := by
  have fits : (rs.filter fun r => decide (r.name = name)).length < 2 ^ 64 :=
    Nat.lt_of_le_of_lt (List.length_filter_le ..) hfit
  rw [UInt64.lt_iff_toNat_lt, UInt64.toNat_ofNat', Nat.mod_eq_of_lt fits]
  simp [List.length_pos_iff_exists_mem]

section

variable {fresh : Nat → ObjectId} {c : Catalogue} {w : World Memory}

theorem Holds.nameInUse (h : Holds fresh c w) {name : String} :
    NameInUse name w ↔ ∃ r ∈ c.readings.list, r.name = name := by
  simp only [NameInUse, h.reading_isIn]

/-- The table of descriptors is that of the catalogue. -/
theorem Holds.get?_descriptors (h : Holds fresh c w) (k : ObjectId) :
    (w.store.table .valueDescriptors).get? k
      = (c.descriptors.get? k).map ValueDescriptor.toDocument := by
  obtain ⟨⟨n, closed, hstore⟩, -⟩ := h
  rw [hstore]
  exact Keyed.get?_table ..

theorem Holds.size_readings (h : Holds fresh c w) :
    w.store.readings.size = c.readings.list.length := by
  obtain ⟨⟨n, closed, hstore⟩, -⟩ := h
  rw [hstore]
  exact (OrderedMap.size_map ..).trans (List.length_map ..).symm

/-- The tables of the store are those of the catalogue. -/
theorem Holds.table (h : Holds fresh c w) (col : Collection) :
    w.store.table col = (c.store 0).table col := by
  obtain ⟨⟨n, closed, hstore⟩, -⟩ := h
  rw [hstore]
  cases col <;> rfl

/-- An error that comes with the same catalogue leaves the tables as they are. Ids may have been
taken, but no document shows it. -/
theorem Holds.refused (h : Holds fresh c w) (hopen : w.store.closed = false) {q : Request}
    {e : StoreError} {taken : Nat}
    (hy : Yields ⟨q.now, fresh⟩ q.operation.action ⟨c, w.taken⟩ (.error e) ⟨c, taken⟩) :
    Refused fresh q w e := by
  obtain ⟨n, hserve⟩ := h.serve_eq hopen hy
  rw [Refused, hserve]
  refine ⟨rfl, fun col => ?_⟩
  rw [h.table]
  cases col <;> rfl

/-! ## The deletion -/

/-- Every deletion of a descriptor is decided by one of the four cases. They are taken in the order
in which the operation asks: the text, the descriptor, the readings with its name, the removal. -/
theorem deletion_decided (h : Holds fresh c w) (hopen : w.store.closed = false)
    (hfit : w.store.readings.size < 2 ^ 64) (text : String) (now : Timestamp) :
    DeletionDecided fresh w text now := by
  rw [h.size_readings] at hfit
  have refused {e : StoreError}
      (hy : Yields ⟨now, fresh⟩ (deleteValueDescriptorById text) ⟨c, w.taken⟩ (.error e)
        ⟨c, w.taken⟩) :
      Refused fresh ⟨.deleteValueDescriptorById text, now⟩ w e :=
    h.refused hopen hy
  have fetched {d : ValueDescriptor} (parsed : ObjectId.parse? text = some d.id) (hd : d.IsIn w) :
      c.descriptors.fetch text = .ok d :=
    Keyed.fetch_eq_ok.2 ⟨parsed, h.descriptor_isIn.1 hd⟩
  -- the order of the cases is that of the checks, so each has to rule out the ones before it
  refine ⟨?malformed, ?missing, ?inUse, ?unused, ?cases⟩
  case malformed =>
    intro hhex
    have parsed := ObjectId.parse?_eq_none_iff.2 hhex
    exact refused (deleteValueDescriptorById_error (Keyed.fetch_of_malformed parsed))
  case missing =>
    intro k parsed hk
    rw [h.get?_descriptors, Option.map_eq_none_iff] at hk
    refine refused (deleteValueDescriptorById_error ?_)
    rw [Keyed.fetch_of_parse parsed, hk]
    rfl
  case inUse =>
    intro d parsed hd used
    have counted := (count_pos_iff hfit d.name).2 (h.nameInUse.1 used)
    exact refused (deleteValueDescriptorById_inUse (fetched parsed hd) counted)
  case unused =>
    intro d parsed hd unused
    have counted := mt (count_pos_iff hfit d.name).1 (mt h.nameInUse.2 unused)
    obtain ⟨n, hserve⟩ := h.serve_eq (q := ⟨.deleteValueDescriptorById text, now⟩) hopen
      (deleteValueDescriptorById_unused (fetched parsed hd) counted)
    rw [hserve]
    refine ⟨rfl, fun col => ?_⟩
    rw [h.table]
    cases col with
    | valueDescriptors => exact c.descriptors.table_remove d.id
    | events | readings => rfl
  case cases =>
    cases parsed : ObjectId.parse? text with
    | none => exact .inl (ObjectId.parse?_eq_none_iff.1 parsed)
    | some k =>
      refine .inr ⟨k, rfl, ?_⟩
      rw [h.get?_descriptors, Option.map_eq_none_iff]
      cases hk : c.descriptors.get? k with
      | none => exact .inl rfl
      | some d =>
        obtain rfl := Keyed.id_of_get? hk
        exact .inr ⟨d, rfl, h.descriptor_isIn.2 (Keyed.mem_list.2 hk)⟩

/-! ## All other operations -/

/-- No other operation takes a descriptor away while a reading has its name. An update is left out,
as it may give the descriptor another name, and so is the deletion of all, which asks for no
reading. -/
theorem Outcome.keepsDescriptor {around : Surroundings} {v v' : World Catalogue} {op : Operation}
    {r : Except StoreError op.Answer} (h : Outcome around v op r v')
    (hupdate : ∀ d, op ≠ .updateValueDescriptor d) (hscrub : op ≠ .scrubAllValueDescriptors)
    (hfit : v.store.readings.list.length < 2 ^ 64) {d : ValueDescriptor}
    (hd : d ∈ v.store.descriptors.list) (used : ∃ r ∈ v.store.readings.list, r.name = d.name) :
    d ∈ v'.store.descriptors.list := by
  have hget : v.store.descriptors.get? d.id = some d := Keyed.mem_list.1 hd
  cases h with
  | @descriptorAdded added new free =>
    -- the added descriptor has an id that was not in use
    have hne : d.id ≠ around.fresh v.taken := by
      intro he
      rw [← he, hget] at new
      cases new
    exact Keyed.mem_list.2 ((Keyed.get?_put ..).trans ((if_neg hne).trans hget))
  | descriptorUpdated _ _ => exact absurd rfl (hupdate _)
  | descriptorsScrubbed => exact absurd rfl hscrub
  | @descriptorRemoved text removed stored unused =>
    -- the removed descriptor is another one, as no reading has its name
    have hne : d.id ≠ removed.id := by
      intro he
      obtain ⟨-, hremoved⟩ := Keyed.fetch_eq_ok.1 stored
      rw [he] at hget
      obtain rfl := Option.some.inj (hget.symm.trans (Keyed.mem_list.1 hremoved))
      exact unused ((count_pos_iff hfit _).2 used)
    exact Keyed.mem_list.2 ((Keyed.get?_remove ..).trans ((if_neg hne).trans hget))
  | _ => exact hd

/-- A request keeps a descriptor in use, on an open store and on a closed one. This is the step from
which runs of any length follow. -/
theorem Holds.keepsDescriptor (h : Holds fresh c w) (hfit : w.store.readings.size < 2 ^ 64)
    (q : Request) (hupdate : ∀ d, q.operation ≠ .updateValueDescriptor d)
    (hscrub : q.operation ≠ .scrubAllValueDescriptors) {d : ValueDescriptor} (hd : d.IsIn w)
    (used : NameInUse d.name w) : d.IsIn (q.serve fresh w).2 := by
  rw [h.size_readings] at hfit
  rw [h.descriptor_isIn] at hd
  rw [h.nameInUse] at used
  cases hc : w.store.closed with
  | true => exact (h.serve_closed hc q).descriptor_isIn.2 hd
  | false =>
    obtain ⟨op, now⟩ := q
    by_cases hop : op = .close
    · subst hop
      exact (h.serve_close now).descriptor_isIn.2 hd
    · obtain ⟨v', n, outcome, -, holds⟩ := h.outcome hc ⟨op, now⟩ hop
      exact holds.descriptor_isIn.2 (outcome.keepsDescriptor hupdate hscrub hfit hd used)

end

/-- In every store that requests reach, a descriptor is deleted by the text of its id exactly if no
reading has its name, and every operation but an update of a descriptor and scrubbing the
descriptors keeps each descriptor that is in use. The count of the readings is a number of 64 bits,
which no table in memory exceeds. -/
theorem descriptor_in_use {fresh : Nat → ObjectId} {w : World Memory} (h : Reached fresh w)
    (hfit : w.store.readings.size < 2 ^ 64) :
    (w.store.closed = false → ∀ text now, DeletionDecided fresh w text now) ∧
      ∀ q : Request, (∀ d, q.operation ≠ .updateValueDescriptor d) →
        q.operation ≠ .scrubAllValueDescriptors →
          ∀ d : ValueDescriptor, d.IsIn w → NameInUse d.name w → d.IsIn (q.serve fresh w).2 := by
  obtain ⟨c, hc⟩ := h.holds
  exact ⟨fun hopen => deletion_decided hc hopen hfit,
    fun q hupdate hscrub _ => hc.keepsDescriptor hfit q hupdate hscrub⟩

/-! ## A descriptor in use -/

/-- After the first reading its descriptor is added. -/
def describe : Request := ⟨.addValueDescriptor (.new "temperature"), 6⟩

/-- The descriptor as it is stored. -/
def described : ValueDescriptor := stampedDescriptor ⟨6, .numbered⟩ 1 (.new "temperature")

/-- The request puts the descriptor of the reading that is there. -/
theorem describe_serve : ∃ h n, (describe.serve .numbered firstWorld).2
    = World.storing ⟨firstCatalogue.putDescriptor described h, 2⟩ n := by
  obtain ⟨n, hw⟩ := firstWorld_standsFor
  have added : ∃ h, Yields ⟨6, .numbered⟩ describe.operation.action ⟨firstCatalogue, 1⟩
      (.ok (.numbered 1)) ⟨firstCatalogue.putDescriptor described h, 2⟩ :=
    @addValueDescriptor_new ⟨6, .numbered⟩ ⟨firstCatalogue, 1⟩ (.new "temperature") rfl rfl
  obtain ⟨h, hy⟩ := added
  obtain ⟨n', hserve⟩ := hy n
  rw [← hw] at hserve
  exact ⟨h, n', congrArg Prod.snd hserve⟩

/-- The descriptor of a name that a reading has cannot be deleted. -/
theorem descriptor_in_use_of_reading :
    Reached .numbered (describe.serve .numbered firstWorld).2 ∧
      (describe.serve .numbered firstWorld).2.store.readings.size < 2 ^ 64 ∧
      Refused .numbered ⟨.deleteValueDescriptorById (ObjectId.numbered 1).toHex, 7⟩
        (describe.serve .numbered firstWorld).2 (.descriptorInUse "temperature") := by
  have reached : Reached .numbered (describe.serve .numbered firstWorld).2 :=
    reachable_firstWorld.reached.serve describe
  obtain ⟨h, n, hw⟩ := describe_serve
  rw [hw] at reached ⊢
  have fit : (World.storing ⟨firstCatalogue.putDescriptor described h, 2⟩ n).store.readings.size
      < 2 ^ 64 := by
    change 1 < 2 ^ 64
    decide
  obtain ⟨decided, -⟩ := descriptor_in_use reached fit
  refine ⟨reached, fit, ?_⟩
  exact (decided rfl (ObjectId.numbered 1).toHex 7).inUse described (ObjectId.parse?_toHex _) rfl
    ⟨firstStored, rfl, rfl⟩

end Telemetry
