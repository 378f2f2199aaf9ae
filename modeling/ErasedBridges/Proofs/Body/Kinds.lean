import ErasedBridges.Proofs.Body.Run
import ErasedBridges.Proofs.Body.Slots
import ErasedBridges.Proofs.Descriptor.Kind

/-!
# The kinds of values in a body

A step of the kinds on the operand stack, the top first. A load takes a value of the kind that its
slot holds, and a call finds its arguments and its receiver. The body fits a method if its
instructions can be run like this up to an exit that the method's return type allows.
-/

namespace ErasedBridges

/-- The slot holds the receiver, or it is the first slot of a parameter of this kind. -/
def KindAt (params : List Descriptor) (slot : Nat) (kind : ValueKind) : Prop :=
  (slot = 0 ∧ kind = .reference) ∨
    ∃ i d, params[i]? = some d ∧ slot = firstSlot params i ∧ ValueKind.of? d = some kind

namespace InvokeKind

def receiver : InvokeKind → List ValueKind
  | static => []
  | _ => [.reference]

end InvokeKind

namespace Instruction

/-- One step from the kinds on the operand stack to those after it. No step leads out of the
method. -/
def MovesKinds (params : List Descriptor) : Instruction → List ValueKind → List ValueKind → Prop
  | load kind slot, s, s' => KindAt params slot kind ∧ s' = kind :: s
  | zero, s, s' => s' = .int :: s
  | cast _, s, s' => ∃ rest, s = .reference :: rest ∧ s' = .reference :: rest
  | invoke c, s, s' => ∃ kinds rest : List ValueKind,
      c.descriptor.params.map ValueKind.of? = kinds.map some ∧
      s = kinds.reverse ++ (c.kind.receiver ++ rest) ∧
      s' = (ValueKind.of? c.descriptor.returnType).toList ++ rest
  | ret _, _, _ | throw, _, _ => False

/-- The method may be left like this: by throwing a reference, or by the return instruction of its
return type. -/
def Leaves (returnType : Descriptor) : Instruction → List ValueKind → Prop
  | throw, s => s.head? = some .reference
  | ret kind, s => kind = ValueKind.of? returnType ∧ ∀ k ∈ kind, s.head? = some k
  | _, _ => False

/-- The instructions can be run with the kinds of values that they need, up to the last one, which
leaves the method. -/
def Typed (m : MethodDescriptor) (is : List Instruction) : Prop :=
  ∃ before exit s, is = before ++ [exit] ∧ Runs (MovesKinds m.params) before [] s ∧
    exit.Leaves m.returnType s

theorem typed_append {m : MethodDescriptor} {before : List Instruction} {exit : Instruction} :
    Typed m (before ++ [exit]) ↔
      ∃ s, Runs (MovesKinds m.params) before [] s ∧ exit.Leaves m.returnType s := by
  constructor
  · rintro ⟨before', exit', s, he, hruns, hleaves⟩
    obtain ⟨rfl, rfl⟩ := List.append_singleton_inj.1 he
    exact ⟨s, hruns, hleaves⟩
  · rintro ⟨s, hruns, hleaves⟩
    exact ⟨before, exit, s, rfl, hruns, hleaves⟩

theorem leaves_ret {returnType : Descriptor} {k : ValueKind}
    (h : ValueKind.of? returnType = some k) (s : List ValueKind) :
    (ret (some k)).Leaves returnType (k :: s) := by
  refine ⟨h.symm, ?_⟩
  rintro _ ⟨⟩
  rfl

/-- What a run loads has the kind of its slot. -/
theorem kindAt_of_mem {params : List Descriptor} {is : List Instruction} {s s' : List ValueKind}
    (h : Runs (MovesKinds params) is s s') {kind : ValueKind} {slot : Nat}
    (hmem : .load kind slot ∈ is) : KindAt params slot kind := by
  induction h with
  | nil => cases hmem
  | cons hstep hruns ih =>
    rcases List.mem_cons.1 hmem with rfl | hmem
    · exact hstep.1
    · exact ih hmem

end Instruction

open Instruction

namespace Argument

def loadedKind (a : Argument) : ValueKind := (ValueKind.of? a.type).getD .reference

variable {params : List Descriptor} {args : List Argument} {s s' : List ValueKind}

theorem loadReference_eq_load {a : Argument} (h : ValueKind.of? a.type = some .reference) :
    a.loadReference = a.load := by
  rw [load, h]
  rfl

theorem runs_loads :
    Runs (MovesKinds params) (args.map load) s s' ↔
      (∀ a ∈ args, KindAt params a.slot a.loadedKind) ∧
        s' = (args.map loadedKind).reverse ++ s := by
  induction args generalizing s with
  | nil => simp [runs_nil]
  | cons a as ih =>
    rw [List.map_cons, runs_cons, List.forall_mem_cons]
    simp only [ih, List.map_cons, List.reverse_cons, List.append_assoc]
    constructor
    · rintro ⟨t, ⟨ha, rfl⟩, has, rfl⟩
      exact ⟨⟨ha, has⟩, rfl⟩
    · rintro ⟨⟨ha, has⟩, rfl⟩
      exact ⟨_, ⟨ha, rfl⟩, has, rfl⟩

/-- The arguments of a body hold values of their types. -/
theorem kindAt_ofParams {a : Argument} (ha : a ∈ ofParams params) {k : ValueKind}
    (h : ValueKind.of? a.type = some k) : KindAt params a.slot k := by
  obtain ⟨i, hi, hslot⟩ := mem_ofParams.1 ha
  exact Or.inr ⟨i, a.type, hi, hslot, h⟩

/-- Values of no other types, unless a parameter is `V` and shares its slot with another. -/
theorem kind_of_kindAt (hparams : ∀ d ∈ params, d.isVoid = false) {a : Argument}
    (ha : a ∈ ofParams params) {k : ValueKind} (h : KindAt params a.slot k) :
    ValueKind.of? a.type = some k := by
  obtain ⟨i, hi, hslot⟩ := mem_ofParams.1 ha
  rcases h with ⟨hzero, -⟩ | ⟨j, d, hj, hslot', hk⟩
  · rw [hslot, firstSlot] at hzero
    omega
  · have hij : i = j := firstSlot_inj hparams (List.getElem?_eq_some_iff.1 hi).1
      (List.getElem?_eq_some_iff.1 hj).1 (hslot.symm.trans hslot')
    rw [← hij, hi] at hj
    cases hj
    exact hk

end Argument

theorem allOfKind_ofParams {kind : ValueKind} {params : List Descriptor} :
    AllOfKind kind params ↔ ∀ a ∈ Argument.ofParams params, ValueKind.of? a.type = some kind := by
  have hmap : (∀ d ∈ (Argument.ofParams params).map Argument.type, ValueKind.of? d = some kind) ↔
      ∀ a ∈ Argument.ofParams params, ValueKind.of? a.type = some kind := List.forall_mem_map
  rw [Argument.types_ofParams] at hmap
  exact hmap

end ErasedBridges
