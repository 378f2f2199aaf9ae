import ErasedBridges.Proofs.Body.Calls
import ErasedBridges.Proofs.Bridge.Synthesis
import ErasedBridges.Proofs.Descriptor.Kind

/-!
# The bodies of bridges

A body gets its locals first, the receiver and then the parameters. So the slots that the
instructions are given are those of the parameters of an instance method.
-/

namespace ErasedBridges.Declaration

variable {l : Layout} {thisGeneric : Descriptor} {names : List Text}
  {descriptor : MethodDescriptor} {signature : Option MethodSignature}

def bodyLocals (l : Layout) (thisGeneric : Descriptor) (names : List Text)
    (descriptor : MethodDescriptor) (signature : Option MethodSignature) : List LocalVariable :=
  receiverLocal l thisGeneric :: parameterLocals names descriptor signature

theorem types_parameterLocals (hlength : names.length = descriptor.params.length) :
    (parameterLocals names descriptor signature).map LocalVariable.type = descriptor.params :=
  calc ((descriptor.params.zip names).mapIdx _).map LocalVariable.type
      = (descriptor.params.zip names).map Prod.fst := by
        refine List.ext_getElem? fun i => ?_
        rw [List.getElem?_map, List.getElem?_mapIdx, List.getElem?_map, Option.map_map]
        rfl
    _ = descriptor.params := List.map_fst_zip hlength.ge

theorem types_bodyLocals (hlength : names.length = descriptor.params.length) :
    (bodyLocals l thisGeneric names descriptor signature).map LocalVariable.type =
      .object l.emptyClassName :: descriptor.params := by
  rw [bodyLocals, List.map_cons, types_parameterLocals hlength]
  rfl

theorem slotsOf_types_bodyLocals (hlength : names.length = descriptor.params.length) :
    slotsOf ((bodyLocals l thisGeneric names descriptor signature).map LocalVariable.type) =
      1 + slotsOf descriptor.params := by
  rw [types_bodyLocals hlength, slotsOf_cons, Descriptor.slots_eq_words (Descriptor.kind_object _)]
  rfl

theorem length_bodyLocals (hlength : names.length = descriptor.params.length) :
    (bodyLocals l thisGeneric names descriptor signature).length =
      descriptor.params.length + 1 := by
  rw [← List.length_map LocalVariable.type, types_bodyLocals hlength, List.length_cons]

/-- The receiver has one slot. -/
theorem slotsOf_receiverLocal (l : Layout) (thisGeneric : Descriptor) :
    slotsOf ([receiverLocal l thisGeneric].map LocalVariable.type) = 1 := by
  rw [List.map_singleton, slotsOf_cons, receiverLocal,
    Descriptor.slots_eq_words (Descriptor.kind_object _)]
  rfl

theorem run_parameterLocals (l : Layout) (thisGeneric : Descriptor) (names : List Text)
    (descriptor : MethodDescriptor) (signature : Option MethodSignature) :
    (Body.empty.addLocal (receiverLocal l thisGeneric)).run
        ((parameterLocals names descriptor signature).map .addLocal) =
      ((Body.placedFrom 1 (parameterLocals names descriptor signature)).map Prod.fst,
        .of (bodyLocals l thisGeneric names descriptor signature) []) := by
  have hreceiver : Body.empty.addLocal (receiverLocal l thisGeneric) =
      .of [receiverLocal l thisGeneric] [] :=
    congrArg Prod.snd (Body.allocate_of [] [] (receiverLocal l thisGeneric))
  rw [hreceiver, Body.run_addLocals, slotsOf_receiverLocal]
  rfl

theorem arguments_parameterLocals (hlength : names.length = descriptor.params.length) :
    List.zipWith Argument.mk descriptor.params
        ((Body.placedFrom 1 (parameterLocals names descriptor signature)).map Prod.fst) =
      Argument.ofParams descriptor.params := by
  have hslots : (Body.placedFrom 1 (parameterLocals names descriptor signature)).map Prod.fst =
      (parameterLocals names descriptor signature).mapIdx
        fun i _ => firstSlot descriptor.params i := by
    rw [Body.placedFrom_eq_mapIdx, types_parameterLocals hlength]
    refine List.ext_getElem? fun i => ?_
    rw [List.getElem?_map, List.getElem?_mapIdx, List.getElem?_mapIdx, Option.map_map]
    rfl
  have hparams : (parameterLocals names descriptor signature).length = descriptor.params.length := by
    rw [← List.length_map LocalVariable.type, types_parameterLocals hlength]
  rw [hslots, Argument.ofParams]
  refine List.ext_getElem (by simp [hparams]) fun i hi hi' => ?_
  rw [List.getElem_zipWith, List.getElem_mapIdx, List.getElem_mapIdx]

/-- A body has the receiver and the named parameters as its locals, and the instructions of its
pattern for the parameters. -/
theorem body_eq_ok {pattern : Pattern} {d : Declaration} {b : Body} :
    d.body l pattern descriptor signature = .ok b ↔
      ∃ names thisGeneric is, pattern.parameterNames? = some names ∧
        names.length = descriptor.params.length ∧
        Descriptor.parse l.emptyThisGeneric = .ok thisGeneric ∧
        pattern.instructions l (Argument.ofParams descriptor.params) descriptor.returnType =
          .ok is ∧
        b = .of (bodyLocals l thisGeneric names descriptor signature) is := by
  constructor
  · intro h
    rw [body] at h
    split at h
    · next names hnames =>
      dsimp only at h
      split at h
      · cases h
      · next hlength =>
        have hlength := of_not_not hlength
        obtain ⟨thisGeneric, hthis, h⟩ := bind_eq_ok.1 h
        rw [run_parameterLocals] at h
        dsimp only at h
        rw [arguments_parameterLocals hlength] at h
        split at h
        · cases h
        · next is his =>
          cases h
          rw [Body.run_pushes]
          exact ⟨names, thisGeneric, is, hnames, hlength, PatchError.ofRead_eq_ok.1 hthis, his, rfl⟩
    · cases h
  · rintro ⟨names, thisGeneric, is, hnames, hlength, hthis, his, rfl⟩
    rw [body, hnames]
    dsimp only
    rw [if_neg (not_not.2 hlength)]
    refine bind_eq_ok.2 ⟨thisGeneric, PatchError.ofRead_eq_ok.2 hthis, ?_⟩
    rw [run_parameterLocals]
    dsimp only
    rw [arguments_parameterLocals hlength, his]
    dsimp only
    rw [Body.run_pushes]
    rfl

end ErasedBridges.Declaration
