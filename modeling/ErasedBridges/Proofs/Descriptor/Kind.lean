import Mathlib
import ErasedBridges.Bridge.Synthesis

/-!
# The kind of value that a type has

Every type but `V` has values of one kind, which take as many words as the type has slots. Object
types and type variables have references.
-/

namespace ErasedBridges

namespace ValueKind

theorem words_pos (k : ValueKind) : 0 < k.words := by
  cases k <;> decide

theorem words_ofBase (b : BaseType) : (ofBase b).words = b.slots := by
  cases b <;> rfl

theorem of?_eq_none {d : Descriptor} : of? d = none ↔ d.isVoid = true := by
  rw [of?]
  split_ifs with h
  · simp [h]
  · simp [h]

/-- `V` and the base types are single letters. -/
theorem of?_of_two_le_length {d : Descriptor} (h : 2 ≤ d.text.length) :
    of? d = some reference := by
  obtain ⟨text⟩ := d
  match text, h with
  | c :: c' :: rest, _ =>
    have hvoid : Descriptor.isVoid ⟨c :: c' :: rest⟩ = false := by
      rw [Descriptor.isVoid, beq_eq_false_iff_ne]
      simp
    rw [of?, hvoid]
    rfl

theorem of?_of_isReference {d : Descriptor} (h : d.isReference = true) :
    of? d = some reference := by
  obtain ⟨text⟩ := d
  match text, h with
  | [c], h =>
    rw [Descriptor.isReference] at h
    simp only [Bool.or_eq_true, beq_iff_eq] at h
    rcases h with (rfl | rfl) | rfl
    · rfl
    · rfl
    · rfl
  | c :: c' :: rest, _ => exact of?_of_two_le_length (by simp)

end ValueKind

namespace Descriptor

theorem slots_eq_words {d : Descriptor} {k : ValueKind} (h : ValueKind.of? d = some k) :
    d.slots = k.words := by
  rw [ValueKind.of?] at h
  rw [slots]
  split_ifs at h ⊢
  · cases h
    cases d.baseType? with
    | none => rfl
    | some b => exact (ValueKind.words_ofBase b).symm

theorem isReference_of_className? {d : Descriptor} {c : Text} (h : d.className? = some c) :
    d.isReference = true := by
  rw [className?] at h
  split at h
  · next s hs => rw [isReference, hs]; rfl
  · cases h

theorem kind_of_className? {d : Descriptor} {c : Text} (h : d.className? = some c) :
    ValueKind.of? d = some .reference :=
  ValueKind.of?_of_isReference (isReference_of_className? h)

theorem kind_object (name : Text) : ValueKind.of? (object name) = some .reference :=
  ValueKind.of?_of_isReference rfl

end Descriptor

def AllOfKind (kind : ValueKind) (ds : List Descriptor) : Prop :=
  ∀ d ∈ ds, ValueKind.of? d = some kind

theorem Primitive.kind_descriptor (p : Primitive) :
    ValueKind.of? p.descriptor = some p.valueKind := by
  cases p <;> rfl

/-- A value that is loaded takes at least the slots of its type: it has some kind, also if the
type is `V`. -/
theorem Argument.slots_le_words (a : Argument) :
    a.type.slots ≤ ((ValueKind.of? a.type).getD .reference).words := by
  cases h : ValueKind.of? a.type with
  | none =>
    rw [Descriptor.slots, if_pos (ValueKind.of?_eq_none.1 h)]
    exact Nat.zero_le _
  | some k => exact (Descriptor.slots_eq_words h).le

end ErasedBridges
