import Telemetry.Json.Decoder
import Telemetry.Proofs.ObjectId.Text
import Telemetry.Proofs.OrderedMap

/-!
# What decoders make of written values

Each decoder reads back what is written for a value of its type, and the fields of a record are read
one by one from the document that holds them.
-/

namespace Telemetry

/-- If two steps succeed together, so does each of them, and the second one is given the result of
the first. -/
theorem ok_of_bind {ε α β : Type} {x : Except ε α} {f : α → Except ε β} {b : β}
    (h : x >>= f = .ok b) : ∃ a, x = .ok a ∧ f a = .ok b := by
  cases x with
  | error e => cases h
  | ok a => exact ⟨a, rfl, h⟩

theorem ok_of_map {ε α β : Type} {x : Except ε α} {f : α → β} {b : β} (h : x.map f = .ok b) :
    ∃ a, x = .ok a ∧ f a = b := by
  cases x with
  | error e => cases h
  | ok a => exact ⟨a, rfl, Except.ok.inj h⟩

namespace Json

namespace Decoder

variable {α : Type}

@[simp] theorem anything_decode (v : Value) : anything.decode v = .ok v := rfl

@[simp] theorem string_decode (s : String) : string.decode (.string s) = .ok s := rfl

@[simp] theorem objectId_decode (id : ObjectId) : objectId.decode (.string id.toHex) = .ok id := by
  simp only [objectId, ObjectId.parse?_toHex]

/-- A signed word is read back from the value that it is. -/
@[simp] theorem int64_decode (n : Int64) : int64.decode (.ofInt64 n) = .ok n := by
  have hlow : -2 ^ 63 ≤ n.toInt := n.le_toInt
  have hhigh : n.toInt ≤ 2 ^ 63 - 1 := by
    have := n.toInt_lt
    omega
  change (if -2 ^ 63 ≤ n.toInt ∧ n.toInt ≤ 2 ^ 63 - 1 then .ok (Int64.ofInt n.toInt) else _)
    = Except.ok n
  rw [if_pos ⟨hlow, hhigh⟩, Int64.ofInt_toInt]

/-- Items that are each read back are read back together. -/
theorem decodeAll_map {d : Decoder α} {write : α → Value} (h : ∀ a, d.decode (write a) = .ok a) :
    ∀ as : List α, d.decodeAll (as.map write) = .ok as
  | [] => rfl
  | a :: as => by
    rw [List.map_cons, decodeAll, h a, decodeAll_map h as]
    rfl

theorem list_decode {d : Decoder α} {write : α → Value} (h : ∀ a, d.decode (write a) = .ok a)
    (as : List α) : (list d).decode (.array (as.map write)) = .ok as :=
  decodeAll_map h as

end Decoder

namespace Fields

variable {α β : Type}

@[simp] theorem ofDocument_map (f : α → β) (x : Fields α) (doc : Document) :
    (f <$> x).ofDocument doc = (x.ofDocument doc).map f := rfl

@[simp] theorem ofDocument_seq (f : Fields (α → β)) (x : Fields α) (doc : Document) :
    (f <*> x).ofDocument doc = both (f.ofDocument doc) (x.ofDocument doc) := rfl

@[simp] theorem mapError_ok {ε ε' : Type} (f : ε → ε') (a : α) :
    (.ok a : Except ε α).mapError f = .ok a := rfl

/-- Renaming an error makes no result of it, so what is read through a renaming has been read. -/
theorem mapError_eq_ok {ε ε' : Type} {f : ε → ε'} {x : Except ε α} {a : α} :
    x.mapError f = .ok a ↔ x = .ok a := by
  constructor
  · intro h
    cases x with
    | error e => cases h
    | ok a' => exact congrArg Except.ok (Except.ok.inj h)
  · rintro rfl
    rfl

@[simp] theorem both_ok (f : α → β) (a : α) : both (.ok f) (.ok a) = .ok (f a) := rfl

/-- Something is put together if and only if both parts are there. Which of two troubles is reported
does not matter where there is none. -/
theorem both_eq_ok {f : Except Trouble (α → β)} {x : Except Trouble α} {b : β} :
    both f x = .ok b ↔ ∃ g a, f = .ok g ∧ x = .ok a ∧ g a = b := by
  constructor
  · intro h
    rcases f with t | g <;> rcases x with u | a
    · cases h
    · cases h
    · cases h
    · exact ⟨g, a, rfl, rfl, Except.ok.inj h⟩
  · rintro ⟨g, a, rfl, rfl, rfl⟩
    rfl

@[simp] theorem ofDocument_required (name : String) (d : Decoder α) (doc : Document) :
    (required name d).ofDocument doc
      = match doc.get? name with
        | some v => (d.decode v).mapError (.invalid name)
        | none => .error (.missing name) := rfl

/-- A field that may be missing takes its usual value then. A value that does not fit is an error
all the same. -/
@[simp] theorem ofDocument_optional (name : String) (d : Decoder α) (default : α)
    (doc : Document) :
    (Fields.optional name d default).ofDocument doc
      = match doc.get? name with
        | some v => (d.decode v).mapError (.invalid name)
        | none => .ok default := rfl

/-- A record is read from the document whose listing its object is. -/
theorem record_decode {name : String} {x : Fields α} {doc : Document} {a : α}
    (h : x.ofDocument doc = .ok a) : (record name x).decode doc.toValue = .ok a := by
  have hd : Document.ofFields doc.entries = doc := OrderedMap.ofList_entries doc
  change ((x.ofDocument (Document.ofFields doc.entries)).mapError _) = _
  rw [hd, h]
  rfl

end Fields

end Json

end Telemetry
