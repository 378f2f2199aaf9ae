import Mathlib
import ErasedBridges.Library.Layout
import ErasedBridges.Proofs.Text.Ink

/-!
# The names of a library

The names that a layout makes up are put together from its texts, a slash and the names of the
primitives. So they have no blanks if the texts have none, and no brackets if these have none.
-/

namespace ErasedBridges

open Text

/-- There is nothing in the text that can end a class name inside a type. -/
def Text.BracketFree (s : Text) : Prop := ∀ c ∈ s, c ≠ '<' ∧ c ≠ '>' ∧ c ≠ ';'

namespace Primitive

theorem ofUpperName?_upperName (p : Primitive) : ofUpperName? p.upperName = some p := by
  cases p <;> decide

theorem upperName_injective : Function.Injective upperName := by
  intro p q h
  have hp := ofUpperName?_upperName p
  rw [h, ofUpperName?_upperName] at hp
  exact (Option.some.inj hp).symm

end Primitive

namespace Layout

def texts (l : Layout) : List Text :=
  [l.package, l.baseInterface, l.emptyClass, l.somePrefix, l.interfaceSuffix, l.emptyFactory.owner,
    l.emptyFactory.name, l.missingValue.owner, l.missingValue.name, l.typeVariable, l.castMethod]

def BlankFree (l : Layout) : Prop := ∀ s ∈ l.texts, Text.BlankFree s

def BracketFree (l : Layout) : Prop := ∀ s ∈ l.texts, Text.BracketFree s

variable {l : Layout}

theorem forall_mem_qualify {P : Char → Prop} (hslash : P '/') (hpackage : ∀ c ∈ l.package, P c)
    {name : Text} (hname : ∀ c ∈ name, P c) : ∀ c ∈ l.qualify name, P c := by
  rw [qualify]
  split
  · exact hname
  · exact List.forall_mem_append.2 ⟨hpackage, List.forall_mem_cons.2 ⟨hslash, hname⟩⟩

/-! ### Blanks -/

theorem BlankFree.qualify (h : l.BlankFree) {name : Text} (hname : Text.BlankFree name) :
    Text.BlankFree (l.qualify name) :=
  forall_mem_qualify (P := fun c => isBlank c = false) rfl (h l.package (by simp [texts])) hname

theorem BlankFree.baseInterfaceName (h : l.BlankFree) : Text.BlankFree l.baseInterfaceName :=
  h.qualify (h l.baseInterface (by simp [texts]))

theorem BlankFree.emptyClassName (h : l.BlankFree) : Text.BlankFree l.emptyClassName :=
  h.qualify (h l.emptyClass (by simp [texts]))

theorem BlankFree.isWord_interface (h : l.BlankFree) (p : Primitive) : IsWord (l.interface p) := by
  have hupper : IsWord p.upperName := by
    cases p <;> decide
  have hsuffix := h l.interfaceSuffix (by simp [texts])
  refine ⟨fun he => hupper.1 ?_, h.qualify (hupper.2.append hsuffix)⟩
  rw [Layout.interface, Layout.qualify] at he
  split at he
  · exact (List.append_eq_nil_iff.1 he).1
  · cases (List.append_eq_nil_iff.1 he).2

theorem BlankFree.emptyThisGeneric (h : l.BlankFree) : Text.BlankFree l.emptyThisGeneric := by
  have hvariable := h l.typeVariable (by simp [texts])
  have hopen : Text.BlankFree "<T".toList := by decide
  have hclose : Text.BlankFree ";>;".toList := by decide
  exact .cons rfl (((h.emptyClassName.append hopen).append hvariable).append hclose)

/-! ### Brackets -/

theorem BracketFree.baseInterfaceName (h : l.BracketFree) :
    Text.BracketFree l.baseInterfaceName :=
  forall_mem_qualify (P := fun c => c ≠ '<' ∧ c ≠ '>' ∧ c ≠ ';') (by decide)
    (h l.package (by simp [texts])) (h l.baseInterface (by simp [texts]))

theorem BracketFree.interface (h : l.BracketFree) (p : Primitive) :
    Text.BracketFree (l.interface p) := by
  have hupper : Text.BracketFree p.upperName := by
    rw [Text.BracketFree]
    cases p <;> decide
  refine forall_mem_qualify (P := fun c => c ≠ '<' ∧ c ≠ '>' ∧ c ≠ ';') (by decide)
    (h l.package (by simp [texts])) ?_
  exact List.forall_mem_append.2 ⟨hupper, h l.interfaceSuffix (by simp [texts])⟩

/-! ### Interfaces -/

theorem qualify_injective (l : Layout) : Function.Injective l.qualify := by
  intro s t h
  rw [qualify, qualify] at h
  split at h
  · exact h
  · exact (List.cons.inj (List.append_cancel_left h)).2

theorem interface_injective (l : Layout) : Function.Injective l.interface := by
  intro p q h
  exact Primitive.upperName_injective (List.append_cancel_right (l.qualify_injective h))

theorem nodup_interfaces (l : Layout) : l.interfaces.Nodup :=
  List.Nodup.map l.interface_injective (by decide)

end Layout

end ErasedBridges
