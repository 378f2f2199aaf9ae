import ErasedBridges.Bridge.Classify
import ErasedBridges.Proofs.Bridge.Synthesis
import ErasedBridges.Proofs.Descriptor.Kind

/-!
# What the choice of a pattern ensures

A pattern is chosen by the name of a method and the number of its parameters, and in some families
by their types. What was found out about the types of a declaration holds of its bridges too.
-/

namespace ErasedBridges

namespace Pattern

/-- What the choice of the pattern has found out about the types. -/
def Ensures (m : MethodDescriptor) : Pattern → Prop
  | orElse | mapEmpty _ _ => ValueKind.of? m.returnType = some .reference
  | ifSome _ => AllOfKind .reference m.params
  | _ => True

end Pattern

namespace IfSomeShape

theorem two_le_length_of_mem_suffixes (element : Text) (shape : IfSomeShape) :
    ∀ suffix ∈ shape.suffixes element, 2 ≤ suffix.length := by
  have haction : 2 ≤ (suffixes.action element).length := by
    simp [suffixes.action]
  have hobjAction : 2 ≤ (suffixes.objAction element).length := by
    simp [suffixes.objAction]
  cases shape <;> simp [suffixes, haction, hobjAction]

/-- There are as many parameters as ends, and each parameter has its own. -/
theorem fits_iff {element : Text} {params : List Descriptor} {shape : IfSomeShape} :
    shape.fits element params = true ↔
      List.Forall₂ (fun d suffix => suffix <:+ d.text) params (shape.suffixes element) := by
  rw [fits, Bool.and_eq_true, beq_iff_eq, List.all_eq_true, List.forall₂_iff_zip, Prod.forall]
  simp only [Text.endsWith, List.isSuffixOf_iff_suffix]

/-- The ends of the parameters are longer than one letter. -/
theorem references_of_fits {element : Text} {params : List Descriptor} {shape : IfSomeShape}
    (h : shape.fits element params = true) : AllOfKind .reference params := by
  obtain ⟨hlength, hends⟩ := List.forall₂_iff_zip.1 (fits_iff.1 h)
  intro d hd
  rw [← List.map_fst_zip hlength.le] at hd
  obtain ⟨⟨d, suffix⟩, hpair, rfl⟩ := List.mem_map.1 hd
  have hsuffix := two_le_length_of_mem_suffixes element shape suffix (List.of_mem_zip hpair).2
  exact ValueKind.of?_of_two_le_length (hsuffix.trans (hends hpair).length_le)

theorem references_of_of? {rest : Text} {params : List Descriptor} {shape : IfSomeShape}
    (h : of? rest params = some shape) : AllOfKind .reference params :=
  references_of_fits (List.find?_some h)

end IfSomeShape

/-- The pattern of a family is chosen after a look at the types that it ensures. -/
theorem Family.ensures_of_pattern? {family : Family} {name : Text} {d : MethodDescriptor}
    {pattern : Pattern} (h : family.pattern? name d = some pattern) : pattern.Ensures d := by
  cases family with
  | absentAccessor =>
    cases h
    trivial
  | throwingAccessor | suppliedAlternative | suppliedDefault =>
    obtain ⟨supplied, -, rfl⟩ := Option.map_eq_some_iff.1 h
    trivial
  | emptyConversion | alternative | filter | predicateTest | primitiveDefault p =>
    rw [pattern?] at h
    split at h
    · cases h
      trivial
    · cases h
  | defaultValue =>
    rw [pattern?] at h
    split at h
    · next hdefault =>
      cases h
      exact ValueKind.of?_of_isReference hdefault.2
    · cases h
  | ifSome rest =>
    obtain ⟨shape, hshape, rfl⟩ := Option.map_eq_some_iff.1 h
    exact IfSomeShape.references_of_of? hshape
  | primitiveSuppliedDefault p =>
    rw [pattern?] at h
    split at h
    · obtain ⟨supplied, -, rfl⟩ := Option.map_eq_some_iff.1 h
      trivial
    · cases h
  | mapping =>
    rw [pattern?] at h
    split at h
    · next hmapping =>
      cases h
      obtain ⟨c, hc⟩ := Option.isSome_iff_exists.1 hmapping.2.2
      exact Descriptor.kind_of_className? hc
    · cases h

namespace Declaration

/-- The pattern is that of the family that the name and the arity decide. -/
theorem exists_family_of_classify {l : Layout} {d : Declaration} {pattern : Pattern}
    (h : d.classify l = .ok (.bridge pattern)) :
    ∃ family, Family.of? d.name d.arity = some family ∧
      family.pattern? d.name d.descriptor = some pattern := by
  rw [classify] at h
  split at h
  · cases h
  · obtain ⟨chosen, hchosen, he⟩ := map_eq_ok.1 h
    cases he
    rw [Declaration.pattern] at hchosen
    split at hchosen
    · cases hchosen
    · next family hfamily =>
      split at hchosen
      · next hpattern =>
        cases hchosen
        exact ⟨family, hfamily, hpattern⟩
      · cases hchosen

theorem ensures_of_classify {l : Layout} {d : Declaration} {pattern : Pattern}
    (h : d.classify l = .ok (.bridge pattern)) : pattern.Ensures d.descriptor := by
  obtain ⟨family, -, hpattern⟩ := exists_family_of_classify h
  exact Family.ensures_of_pattern? hpattern

/-- The boxed types are references too. -/
theorem ensures_of_mem_synthesize {t : Target} {pattern : Pattern} {d : Declaration}
    (hd : pattern.Ensures d.descriptor) {block : List Bridge}
    (h : d.synthesize t pattern = .ok block) {b : Bridge} (hb : b ∈ block) :
    pattern.Ensures b.descriptor := by
  rcases exists_bridge_of_mem_synthesize h hb with
    ⟨s, p, descriptor, signature, -, hdescriptor, -, hbridge⟩ | hbridge
  · obtain ⟨body, -, rfl⟩ := bridge_eq_ok.1 hbridge
    obtain ⟨hparams, hreturn⟩ :=
      forall_specializedDescriptor (P := fun type => ValueKind.of? type = some .reference)
        hdescriptor (Descriptor.kind_object p.boxed)
    cases pattern with
    | orElse | mapEmpty _ _ => exact hreturn hd
    | ifSome shape => exact hparams hd
    | _ => trivial
  · obtain ⟨body, -, rfl⟩ := bridge_eq_ok.1 hbridge
    exact hd

end Declaration

end ErasedBridges
