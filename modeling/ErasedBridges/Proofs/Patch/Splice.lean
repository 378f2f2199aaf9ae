import ErasedBridges.Proofs.Patch.EmptyVariant
import ErasedBridges.Proofs.Signature.Grammar

/-!
# What patching the empty class leaves alone

The patched class has the items of the class in their order, the specialised interfaces behind the
generic one, the bridges before the signature, and in the signature the interfaces once more.
Whichever of the two places comes first, nothing else changes.
-/

namespace ErasedBridges

/-- The new value is the old one with the specialised interfaces directly behind the first
supertype that is the generic interface. These are the type parameters and the supertypes on
either side of it. -/
structure SignatureText.InterfacesAdded (s : SignatureText) (l : Layout)
    (typeParams : List TypeParameter) (before after : List Descriptor) (s' : SignatureText) :
    Prop where
  read : ClassSignature.parse s.value =
    .ok ⟨typeParams, before ++ ⟨l.baseInterfaceSegment⟩ :: after⟩
  first : ⟨l.baseInterfaceSegment⟩ ∉ before
  value : s.value = typeParametersText typeParams ++ textOf before ++ l.baseInterfaceSegment ++
    textOf after
  added : s'.value = typeParametersText typeParams ++ textOf before ++ l.baseInterfaceSegment ++
    (Primitive.all.flatMap fun p => 'L' :: (l.interface p ++ [';'])) ++ textOf after
  quote : s'.quote = s.quote

theorem SignatureText.exists_interfacesAdded {l : Layout} {className : Text}
    {s s' : SignatureText} (h : s.addInterfaces l className = .ok s') :
    ∃ typeParams before after, s.InterfacesAdded l typeParams before after s' := by
  obtain ⟨⟨typeParams, supertypes⟩, before, after, hparsed, rfl, hfirst, rfl⟩ :=
    addInterfaces_eq_ok h
  obtain ⟨hvalue, -⟩ := ClassSignature.parse_eq_ok_iff.1 hparsed
  have hadded : textOf (l.interfaces.map .object) =
      Primitive.all.flatMap fun p => 'L' :: (l.interface p ++ [';']) := by
    rw [textOf, Layout.interfaces, List.map_map, List.flatMap_map]
    rfl
  refine ⟨typeParams, before, after, hparsed, hfirst, ?_, ?_, rfl⟩
  · rw [hvalue]
    simp [ClassSignature.text, textOf]
  · rw [← hadded]
    simp [ClassSignature.text, textOf]

/-- What is not in the first of two lists stands behind all of it. -/
theorem exists_behind_of_append_eq {α : Type} {as bs before after : List α} {a : α}
    (h : as ++ bs = before ++ a :: after) (ha : a ∉ as) :
    ∃ between, before = as ++ between ∧ bs = between ++ a :: after := by
  rcases List.append_eq_append_iff.1 h with ⟨between, hbefore, hbs⟩ | ⟨behind, rfl, hbehind⟩
  · exact ⟨between, hbefore, hbs⟩
  · cases behind with
    | nil => exact ⟨[], by rw [List.append_nil, List.append_nil], hbehind.symm⟩
    | cons b behind =>
      obtain ⟨rfl, -⟩ := List.cons.inj hbehind
      exact absurd (List.mem_append_right before List.mem_cons_self) ha

namespace ClassItem

/-- The interfaces go behind the first mention of the generic one, and the bridges, each after a
blank line, before the first signature, which becomes another one. -/
inductive Spliced (l : Layout) (bridges : List Method) (s s' : SignatureText) :
    List ClassItem → List ClassItem → Prop
  | interfaceFirst {before between after : List ClassItem}
    (hinterface : ∀ i ∈ before, i.interface? ≠ some l.baseInterfaceName)
    (hsignature : ∀ i ∈ before ++ between, i.signature? = none) :
    Spliced l bridges s s'
      (before ++ .implements l.baseInterfaceName :: (between ++ .signature s :: after))
      (before ++ .implements l.baseInterfaceName ::
        ((Primitive.all.map fun p => .implements (l.interface p)) ++
          (between ++ ((bridges.flatMap fun m => [.raw [], .method m]) ++ .signature s' :: after))))
  | signatureFirst {before between after : List ClassItem}
    (hinterface : ∀ i ∈ before ++ between, i.interface? ≠ some l.baseInterfaceName)
    (hsignature : ∀ i ∈ before, i.signature? = none) :
    Spliced l bridges s s'
      (before ++ .signature s :: (between ++ .implements l.baseInterfaceName :: after))
      (before ++ ((bridges.flatMap fun m => [.raw [], .method m]) ++ .signature s' ::
        (between ++ .implements l.baseInterfaceName ::
          ((Primitive.all.map fun p => .implements (l.interface p)) ++ after))))

end ClassItem

namespace ClassFile

open ClassItem

/-- The two splices do not get into each other's way, as no interface is a signature. -/
theorem spliced_patchEmpty {l : Layout} {bridges : List Method} {c patched : ClassFile}
    (h : c.patchEmpty l bridges = .ok patched) :
    ∃ s s', s.addInterfaces l c.displayName = .ok s' ∧
      Spliced l bridges s s' c.items patched.items := by
  obtain ⟨-, -, before, after, s, s', hadd, hs, rfl, hsignature⟩ := patchEmpty_eq_ok h
  obtain ⟨start, rest, hc, hitems, hinterface⟩ := addInterfaces_eq_ok hadd
  have hadded : l.interfaces.map ClassItem.implements =
      Primitive.all.map fun p => .implements (l.interface p) := by
    rw [Layout.interfaces, List.map_map]
    rfl
  rw [hadded] at hitems
  refine ⟨s, s', hs, ?_⟩
  rw [hc]
  rcases List.append_eq_append_iff.1 hitems with ⟨between, rfl, hrest⟩ | ⟨between, rfl, hrest⟩
  -- the signature stands before the generic interface
  · cases between with
    | nil => cases hrest
    | cons i between =>
      obtain ⟨rfl, rfl⟩ := List.cons.inj hrest
      rw [List.append_assoc, List.cons_append]
      refine .signatureFirst (fun j hj => hinterface j ?_) hsignature
      rcases List.mem_append.1 hj with hj | hj
      · exact List.mem_append_left _ hj
      · exact List.mem_append_right _ (List.mem_cons_of_mem _ hj)
  -- it stands behind, and not among the added interfaces
  · have hnotAdded : ClassItem.signature s ∉ ClassItem.implements l.baseInterfaceName ::
        Primitive.all.map fun p => .implements (l.interface p) := by
      simp
    obtain ⟨between, rfl, rfl⟩ := exists_behind_of_append_eq hrest hnotAdded
    rw [List.append_assoc, List.append_assoc]
    refine .interfaceFirst hinterface fun j hj => hsignature j ?_
    rcases List.mem_append.1 hj with hj | hj
    · exact List.mem_append_left _ hj
    · exact List.mem_append_right _ (List.mem_append_right _ hj)

/-- A patch of the empty class adds the interfaces to its items and to its signature, and the
bridges, and changes nothing else. -/
theorem patchEmpty_adds_only {l : Layout} {bridges : List Method} {c patched : ClassFile}
    (h : c.patchEmpty l bridges = .ok patched) :
    ∃ s s' typeParams before after,
      s.InterfacesAdded l typeParams before after s' ∧
      Spliced l bridges s s' c.items patched.items := by
  obtain ⟨s, s', hs, hspliced⟩ := spliced_patchEmpty h
  obtain ⟨typeParams, before, after, hadded⟩ := SignatureText.exists_interfacesAdded hs
  exact ⟨s, s', typeParams, before, after, hadded, hspliced⟩

/-- The signature stands first, and the generic interface is mentioned twice. -/
def signatureFirstClass : ClassFile :=
  ⟨[.raw ".class N".toList,
    .signature ⟨"<T:>LA;LB<TT;>;Lme/dkleszyk/java/option/Option<TT;>;LC;".toList, some .double⟩,
    .implements "B".toList, .implements Layout.default.baseInterfaceName, .implements "C".toList,
    .implements Layout.default.baseInterfaceName, .signature ⟨"LA;".toList, none⟩]⟩

theorem patchEmpty_adds_only_signatureFirst :
    ∃ patched, signatureFirstClass.patchEmpty .default [⟨[], "f".toList, "()V".toList, []⟩] =
        .ok patched ∧
      ∃ s s' typeParams before after,
        s.InterfacesAdded .default typeParams before after s' ∧
        Spliced .default [⟨[], "f".toList, "()V".toList, []⟩] s s' signatureFirstClass.items
          patched.items := by
  obtain ⟨patched, hpatched⟩ := exists_ok_of_isOk (x := signatureFirstClass.patchEmpty .default
    [⟨[], "f".toList, "()V".toList, []⟩]) (by decide +kernel)
  exact ⟨patched, hpatched, patchEmpty_adds_only hpatched⟩

end ClassFile

end ErasedBridges
