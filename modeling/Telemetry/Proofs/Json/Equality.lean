import Telemetry.Json.Value

/-!
# Equality of JSON values

* `Value.same_comm` — equality is symmetric.
* `Value.same_string` — a value equals a text only by being that text.
-/

namespace Telemetry

/-- Equality of floating-point numbers has no order, although it is not equality of their bits: the
two zeros are equal, and what is no number is not equal to itself. -/
theorem Decimal.Binary64.same_comm (x y : Binary64) : x.same y = y.same x := by
  rw [Bool.eq_iff_iff]
  simp only [same, Bool.and_eq_true, decide_eq_true_eq, Bool.or_eq_true, beq_iff_eq]
  constructor
  · rintro ⟨h, h' | h'⟩
    · exact ⟨h.symm, .inl h'.symm⟩
    · exact ⟨h.symm, .inr (h ▸ h')⟩
  · rintro ⟨h, h' | h'⟩
    · exact ⟨h.symm, .inl h'.symm⟩
    · exact ⟨h.symm, .inr (h ▸ h')⟩

namespace Json

/-- Equality of numbers has no order. Numbers of different kinds differ from both sides. -/
theorem Number.same_comm : ∀ m n : Number, m.same n = n.same m
  | whole _, whole _ => decide_eq_decide.2 eq_comm
  | real x, real y => Decimal.Binary64.same_comm x y
  | whole _, real _ | real _, whole _ => rfl

namespace Value

mutual

/-- Equality of values has no order. The proof follows the first value; values of different kinds
differ from both sides. -/
theorem same_comm : ∀ a b : Value, same a b = same b a
  | null, b => by cases b <;> simp [same]
  | boolean x, b => by
    cases b with
    | boolean y => simp only [same]; exact Bool.beq_comm
    | _ => simp [same]
  | number m, b => by
    cases b with
    | number n => simp only [same]; exact m.same_comm n
    | _ => simp [same]
  | string s, b => by
    cases b with
    | string t => simp only [same]; exact Bool.beq_comm
    | _ => simp [same]
  | array as, b => by
    cases b with
    | array bs => simp only [same]; exact sameItems_comm as bs
    | _ => simp [same]
  | object as, b => by
    cases b with
    | object bs => simp only [same]; exact sameMembers_comm as bs
    | _ => simp [same]

/-- Equality of arrays has no order. -/
theorem sameItems_comm : ∀ as bs : List Value, sameItems as bs = sameItems bs as
  | [], [] => rfl
  | [], _ :: _ => by simp [sameItems]
  | _ :: _, [] => by simp [sameItems]
  | a :: as, b :: bs => by
    simp only [sameItems]
    rw [same_comm a b, sameItems_comm as bs]

/-- Equality of objects has no order. -/
theorem sameMembers_comm : ∀ as bs : List (String × Value), sameMembers as bs = sameMembers bs as
  | [], [] => rfl
  | [], _ :: _ => by simp [sameMembers]
  | _ :: _, [] => by simp [sameMembers]
  | a :: as, b :: bs => by
    simp only [sameMembers]
    rw [sameMember_comm a b, sameMembers_comm as bs]

theorem sameMember_comm : ∀ a b : String × Value, sameMember a b = sameMember b a
  | (k, a), (l, b) => by
    simp only [sameMember]
    rw [same_comm a b, Bool.beq_comm]

end

@[simp] theorem same_string {v : Value} {s : String} : v.same (string s) = true ↔ v = string s := by
  cases v <;> simp [same]

end Value

end Json

end Telemetry
