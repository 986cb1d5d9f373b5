import Telemetry.Proofs.Json.Decoder
import Telemetry.Proofs.ObjectId.Encoding

/-!
# Writing again what was decoded

A decoder need not accept only what is written for a value of its type: an id is read in either case
and written in lower case. It still keeps all of the value that it accepts, so what is written for
the result is the value in some form. A record is put together from such decoders field by field.

* `Decoder.Rewrites` — what is written for the result of a decoder is the value in some form.
* `Fields.Yields` — a property of whatever the fields of a record make of a document, shown field by
  field.
* `Fields.ReadsOwn` — the fields of a record see no others.
-/

namespace Telemetry

namespace Json

/-! ## Values -/

namespace Value

/-- A text in lower case; any other value as it is. -/
def lowerText : Value → Value
  | string s => string s.toLower
  | v => v

/-- A text in lower case, or a list of texts; any other value as it is. -/
def lowerTexts : Value → Value
  | array vs => array (vs.map lowerText)
  | v => v.lowerText

end Value

namespace Decoder

variable {α : Type} {d : Decoder α} {write : α → Value} {form : Value → Value}

/-- What is written for that which a decoder makes of a value is the value in some form. The form
says how much of the value may be lost. -/
def Rewrites (d : Decoder α) (write : α → Value) (form : Value → Value) : Prop :=
  ∀ v a, d.decode v = .ok a → write a = form v

theorem anything_rewrites : anything.Rewrites id id := fun _ _ h => (Except.ok.inj h).symm

/-- A text is written as it was. -/
theorem string_rewrites : string.Rewrites .string id := by
  intro v s h
  cases v with
  | string t =>
    obtain rfl := Except.ok.inj h
    rfl
  | null | boolean | number | array | object => cases h

/-- A whole number that is read as a signed word is that word, so it is written with the same
digits. -/
theorem ofInt64_of_decode {w : Whole} {n : Int64}
    (h : int64.decode (.number (.whole w)) = .ok n) : Value.ofInt64 n = .number (.whole w) := by
  simp only [int64, whole] at h
  split at h
  · next hw =>
    obtain rfl := Except.ok.inj h
    have same : (Whole.ofInt64 (Int64.ofInt w.value)).value = w.value :=
      Int64.toInt_ofInt_of_le hw.1 (Int.lt_of_le_sub_one hw.2)
    rw [Value.ofInt64, Whole.ext_value same]
  · cases h

/-- A signed word is written as it was. -/
theorem int64_rewrites : int64.Rewrites .ofInt64 id := by
  intro v n h
  cases v with
  | number x =>
    cases x with
    | whole w => exact ofInt64_of_decode h
    | real x => cases h
  | null | boolean | string | array | object => cases h

/-- An id is written in lower case, which is the only change that writing makes to what has been
read. -/
theorem objectId_rewrites (hform : ∀ s, form (.string s) = .string s.toLower) :
    objectId.Rewrites (fun id => .string id.toHex) form := by
  intro v id h
  cases v with
  | string s =>
    simp only [objectId] at h
    split at h
    · next id' hs =>
      obtain rfl := Except.ok.inj h
      exact (congrArg Value.string (ObjectId.toHex_eq_toLower hs)).trans (hform s).symm
    · cases h
  | null | boolean | number | array | object => cases h

/-- Items are written in the form of each of them. -/
theorem decodeAll_rewrites (hd : d.Rewrites write form) : ∀ {vs : List Value} {as : List α},
    d.decodeAll vs = .ok as → as.map write = vs.map form
  | [], as, h => by
    obtain rfl := Except.ok.inj h
    rfl
  | v :: vs, as, h => by
    obtain ⟨a, ha, h⟩ := ok_of_bind h
    obtain ⟨rest, hrest, h⟩ := ok_of_bind h
    obtain rfl := Except.ok.inj h
    rw [List.map_cons, List.map_cons, hd v a ha, decodeAll_rewrites hd hrest]

/-- A list is written again item by item. -/
theorem list_rewrites {listForm : Value → Value} (hd : d.Rewrites write form)
    (hlist : ∀ vs, listForm (.array vs) = .array (vs.map form)) :
    (list d).Rewrites (fun as => .array (as.map write)) listForm := by
  intro v as h
  cases v with
  | array vs =>
    have items : as.map write = vs.map form := decodeAll_rewrites hd h
    rw [hlist, ← items]
  | null | boolean | number | string | object => cases h

theorem strings_rewrites : (list string).Rewrites (fun ss => .array (ss.map .string)) id :=
  list_rewrites string_rewrites fun vs => congrArg Value.array (List.map_id vs).symm

/-- A list of ids is written in lower case. -/
theorem objectIds_rewrites :
    (list objectId).Rewrites (fun ids => .array (ids.map fun id => .string id.toHex))
      Value.lowerTexts := by
  have item : objectId.Rewrites (fun id => .string id.toHex) Value.lowerText :=
    objectId_rewrites fun _ => rfl
  exact list_rewrites item fun _ => rfl

end Decoder

/-! ## Records -/

namespace Fields

variable {α β : Type} {d : Document}

/-- Whatever the fields of a record make of a document has a property. -/
def Yields (x : Fields α) (d : Document) (P : α → Prop) : Prop :=
  ∀ a, x.ofDocument d = .ok a → P a

theorem Yields.map {x : Fields α} {f : α → β} {P : β → Prop} (h : x.Yields d fun a => P (f a)) :
    (f <$> x).Yields d P := by
  intro b hb
  obtain ⟨a, ha, rfl⟩ := ok_of_map hb
  exact h a ha

/-- What two parts of a record make together is shown for one part after the other. -/
theorem Yields.seq {f : Fields (α → β)} {x : Fields α} {P : β → Prop}
    (h : f.Yields d fun g => x.Yields d fun a => P (g a)) : (f <*> x).Yields d P := by
  intro b hb
  obtain ⟨g, a, hg, ha, rfl⟩ := both_eq_ok.1 hb
  exact h g hg a ha

/-- A record is made of the fields in its layout, whatever else a document has. So an unknown field
can make no difference to what is read. -/
def ReadsOwn (x : Fields α) : Prop :=
  ∀ d d' : Document, (∀ field ∈ x.layout, d.get? field.1 = d'.get? field.1) →
    x.ofDocument d = x.ofDocument d'

theorem readsOwn_required (name : String) (dec : Decoder α) : (required name dec).ReadsOwn := by
  intro d d' h
  have same : d.get? name = d'.get? name := h _ (List.mem_singleton.2 rfl)
  rw [ofDocument_required, ofDocument_required, same]

theorem readsOwn_optional (name : String) (dec : Decoder α) (default : α) :
    (Fields.optional name dec default).ReadsOwn := by
  intro d d' h
  have same : d.get? name = d'.get? name := h _ (List.mem_singleton.2 rfl)
  rw [ofDocument_optional, ofDocument_optional, same]

theorem ReadsOwn.map {x : Fields α} (f : α → β) (hx : x.ReadsOwn) : (f <$> x).ReadsOwn := by
  intro d d' h
  rw [ofDocument_map, ofDocument_map, hx d d' h]

/-- Two parts of a record see the fields of both. -/
theorem ReadsOwn.seq {f : Fields (α → β)} {x : Fields α} (hf : f.ReadsOwn) (hx : x.ReadsOwn) :
    (f <*> x).ReadsOwn := by
  intro d d' h
  have first : f.ofDocument d = f.ofDocument d' :=
    hf d d' fun field hfield => h field (List.mem_append_left _ hfield)
  have second : x.ofDocument d = x.ofDocument d' :=
    hx d d' fun field hfield => h field (List.mem_append_right _ hfield)
  rw [ofDocument_seq, ofDocument_seq, first, second]

end Fields

end Json

end Telemetry
