import ErasedBridges.Proofs.Bridge.Acceptance
import ErasedBridges.Proofs.Bridge.Variants

/-!
# When a chosen pattern can be synthesised

Specialising keeps the number of the parameters, and it puts classes in the place of classes. So
what the choice of a pattern ensures holds of every bridge, and little is left that can fail: the
types of the layout and of the signature, and the return type of what is supplied, which no choice
looks at.
-/

namespace ErasedBridges

namespace Declaration

/-- The descriptors that the bridges of a declaration get: its own, or with the type variable at
the top of its signature the specialised ones. -/
inductive BridgeDescriptor (l : Layout) (d : Declaration) : MethodDescriptor → Prop where
  | plain (hplain : d.hasTopLevel l.typeVariable = false) : BridgeDescriptor l d d.descriptor
  | variant {s : MethodSignature} {p : Primitive} {m : MethodDescriptor}
      (hs : d.signature = some s) (hvar : s.hasTopLevel l.typeVariable = true)
      (hm : d.specializedDescriptor l p s = .ok m) : BridgeDescriptor l d m

section

variable {l : Layout} {d : Declaration} {pattern : Pattern} {s : MethodSignature} {p : Primitive}
  {m : MethodDescriptor}

/-- A boxed type is a class, so specialising takes none away. -/
theorem accepts_of_specializedDescriptor (hm : d.specializedDescriptor l p s = .ok m)
    (h : pattern.Accepts d.descriptor) : pattern.Accepts m := by
  have hboxed : p.boxedDescriptor.className?.isSome = true := by
    rw [Primitive.boxedDescriptor, Descriptor.className?_object p.bracketFree_boxed]
    rfl
  obtain ⟨-, hreturn⟩ :=
    forall_specializedDescriptor (P := fun type => type.className?.isSome = true) hm hboxed
  cases pattern with
  | emptyOf _ | orGet _ | orElseGet _ | filter _ => exact hreturn h
  | mapEmpty narrowed _ =>
    cases narrowed with
    | false => trivial
    | true => exact hreturn h
  | primitiveOrElseGet _ _ =>
    -- Only the first parameter is known to be a class, so nothing can be said of all of them.
    have hat := boxedAt_of_specializedDescriptor hm
    rw [Pattern.Accepts, List.head?_eq_getElem?] at h ⊢
    cases herased : d.descriptor.params[0]? with
    | none =>
      rw [herased] at h
      cases h
    | some erased =>
      rw [herased] at h
      obtain ⟨hlt, -⟩ := List.getElem?_eq_some_iff.1 herased
      have hgeneric := List.getElem?_eq_getElem (hat.arity.symm ▸ hlt)
      rw [hat.params 0 _ _ hgeneric herased]
      split
      · exact hboxed
      · exact h
  | _ => trivial

theorem exists_body_iff {signature : Option MethodSignature} {names : List Text}
    (hnames : pattern.parameterNames? = some names) (hlength : names.length = m.params.length) :
    (∃ b, d.body l pattern m signature = .ok b) ↔
      (∃ g, Descriptor.parse l.emptyThisGeneric = .ok g) ∧ pattern.Accepts m := by
  rw [← Pattern.exists_instructions_iff (l := l) hnames hlength]
  constructor
  · rintro ⟨b, hb⟩
    obtain ⟨-, thisGeneric, is, -, -, hthis, his, -⟩ := body_eq_ok.1 hb
    exact ⟨⟨thisGeneric, hthis⟩, is, his⟩
  · rintro ⟨⟨thisGeneric, hthis⟩, is, his⟩
    exact ⟨_, body_eq_ok.2 ⟨names, thisGeneric, is, hnames, hlength, hthis, his, rfl⟩⟩

theorem exists_bridge_iff {t : Target} {variant : Option Primitive}
    {signature : Option MethodSignature} {names : List Text}
    (hnames : pattern.parameterNames? = some names) (hlength : names.length = m.params.length) :
    (∃ b, d.bridge t pattern variant m signature = .ok b) ↔
      (∃ g, Descriptor.parse t.layout.emptyThisGeneric = .ok g) ∧ pattern.Accepts m := by
  constructor
  · rintro ⟨b, hb⟩
    obtain ⟨body, hbody, -⟩ := bridge_eq_ok.1 hb
    exact (exists_body_iff hnames hlength).1 ⟨body, hbody⟩
  · intro h
    obtain ⟨body, hbody⟩ := (exists_body_iff hnames hlength).2 h
    exact ⟨_, bridge_eq_ok.2 ⟨body, hbody, rfl⟩⟩

theorem BridgeDescriptor.arity (hm : d.BridgeDescriptor l m) : m.params.length = d.arity := by
  cases hm with
  | plain => rfl
  | variant _ _ hm => exact (boxedAt_of_specializedDescriptor hm).length

/-- Of the types of a bridge only the one that supplied values are cast to is in question. -/
theorem accepts_iff_of_chosen (hchosen : pattern.Chosen d.descriptor)
    (hm : d.BridgeDescriptor l m) :
    pattern.Accepts m ↔ (pattern.CastsSupplied → m.returnType.className?.isSome = true) := by
  by_cases hcasts : pattern.CastsSupplied
  · obtain ⟨s, rfl | rfl⟩ := hcasts
    · exact ⟨fun h _ => h, fun h => h ⟨s, Or.inl rfl⟩⟩
    · exact ⟨fun h _ => h, fun h => h ⟨s, Or.inr rfl⟩⟩
  · refine ⟨fun _ h => absurd h hcasts, fun _ => ?_⟩
    cases hm with
    | plain => exact hchosen.accepts hcasts
    | variant _ _ hm => exact accepts_of_specializedDescriptor hm (hchosen.accepts hcasts)

end

section

variable {t : Target} {d : Declaration} {pattern : Pattern} {s : MethodSignature}
  {names : List Text}

theorem exists_variantBridge_iff {p : Primitive} (hnames : pattern.parameterNames? = some names)
    (hlength : names.length = d.arity) :
    (∃ b, d.variantBridge t pattern s p = .ok b) ↔
      (∃ g, Descriptor.parse t.layout.emptyThisGeneric = .ok g) ∧
      (s.params.length = d.arity ∧ ∀ type ∈ s.types, type.Rewritable) ∧
      ∀ m, d.specializedDescriptor t.layout p s = .ok m → pattern.Accepts m := by
  constructor
  · rintro ⟨b, hb⟩
    obtain ⟨m, hm, signature, hsignature, hbridge⟩ := variantBridge_eq_ok.1 hb
    have hat := boxedAt_of_specializedDescriptor hm
    obtain ⟨hthis, haccepts⟩ :=
      (exists_bridge_iff hnames (hlength.trans hat.length.symm)).1 ⟨b, hbridge⟩
    refine ⟨hthis, ⟨hat.arity, fun type htype => ?_⟩, fun m' hm' => ?_⟩
    · obtain ⟨type', htype'⟩ := MethodSignature.exists_mapVariables_iff.1 ⟨_, hsignature⟩ type htype
      exact Descriptor.rewritable_of_mapVariables htype'
    · obtain rfl : m = m' := Except.ok.inj (hm.symm.trans hm')
      exact haccepts
  · rintro ⟨hthis, ⟨harity, htypes⟩, haccepts⟩
    obtain ⟨m, hm⟩ : ∃ m, d.specializedDescriptor t.layout p s = .ok m := ⟨_, if_pos harity⟩
    obtain ⟨signature, hsignature⟩ :=
      MethodSignature.exists_mapVariables_iff.2 fun type htype => htypes type htype
        (replacing t.layout.typeVariable p.boxedDescriptor)
    have hlength' := hlength.trans (boxedAt_of_specializedDescriptor hm).length.symm
    obtain ⟨b, hb⟩ := (exists_bridge_iff (t := t) (d := d) hnames hlength').2
      ⟨hthis, haccepts m hm⟩
    exact ⟨b, variantBridge_eq_ok.2 ⟨m, hm, signature, hsignature, hb⟩⟩

theorem exists_synthesize_iff (hnames : pattern.parameterNames? = some names)
    (hlength : names.length = d.arity) :
    (∃ block, d.synthesize t pattern = .ok block) ↔
      (∃ g, Descriptor.parse t.layout.emptyThisGeneric = .ok g) ∧
      (∀ s, d.signature = some s → s.hasTopLevel t.layout.typeVariable = true →
        s.params.length = d.arity ∧ ∀ type ∈ s.types, type.Rewritable) ∧
      ∀ m, d.BridgeDescriptor t.layout m → pattern.Accepts m := by
  cases hvar : d.hasTopLevel t.layout.typeVariable with
  | false =>
    have hplain := forall_signature_of_hasTopLevel hvar
    constructor
    · rintro ⟨block, hblock⟩
      obtain ⟨b, hb, -⟩ := (synthesize_eq_ok_of_plain hplain).1 hblock
      obtain ⟨hthis, haccepts⟩ := (exists_bridge_iff hnames hlength).1 ⟨b, hb⟩
      refine ⟨hthis, fun s hs hs' => ?_, fun m hm => ?_⟩
      · rw [hplain s hs] at hs'
        cases hs'
      · cases hm with
        | plain => exact haccepts
        | variant hs hs' _ =>
          rw [hplain _ hs] at hs'
          cases hs'
    · rintro ⟨hthis, -, haccepts⟩
      obtain ⟨b, hb⟩ := (exists_bridge_iff hnames hlength).2 ⟨hthis, haccepts _ (.plain hvar)⟩
      exact ⟨[b], (synthesize_eq_ok_of_plain hplain).2 ⟨b, hb, rfl⟩⟩
  | true =>
    obtain ⟨s, hs, hs'⟩ := exists_signature_of_hasTopLevel hvar
    constructor
    · rintro ⟨block, hblock⟩
      have hall := exists_forall₂_iff.1
        ⟨block, mapM_eq_ok.1 ((synthesize_eq_ok_of_variable hs hs').1 hblock)⟩
      -- All variants but for their descriptors need the same, so one of them tells it.
      have hready (p : Primitive) :=
        (exists_variantBridge_iff hnames hlength).1 (hall p p.mem_all)
      refine ⟨(hready .boolean).1, fun other hother _ => ?_, fun m hm => ?_⟩
      · obtain rfl : s = other := Option.some.inj (hs.symm.trans hother)
        exact (hready .boolean).2.1
      · cases hm with
        | plain hplain =>
          rw [hvar] at hplain
          cases hplain
        | @variant other p _ hother _ hm =>
          obtain rfl : s = other := Option.some.inj (hs.symm.trans hother)
          exact (hready p).2.2 m hm
    · rintro ⟨hthis, htypes, haccepts⟩
      obtain ⟨block, hblock⟩ := exists_forall₂_iff.2 fun p (_ : p ∈ Primitive.all) =>
        (exists_variantBridge_iff hnames hlength).2
          ⟨hthis, htypes s hs hs', fun m hm => haccepts m (.variant hs hs' hm)⟩
      exact ⟨block, (synthesize_eq_ok_of_variable hs hs').2 (mapM_eq_ok.2 hblock)⟩

/-- Once a pattern is chosen for a declaration its parameters are those of the pattern. Its bridges
can be made exactly if the type of the receiver is one, the types of a signature that is
specialised can be rewritten and match the parameters, and what is supplied can be cast. -/
theorem synthesize_of_classify (h : d.classify t.layout = .ok (.bridge pattern)) :
    pattern.InRange d.arity ∧ (∀ m, d.BridgeDescriptor t.layout m → m.params.length = d.arity) ∧
    ((∃ block, d.synthesize t pattern = .ok block) ↔
      (∃ g, Descriptor.parse t.layout.emptyThisGeneric = .ok g) ∧
      (∀ s, d.signature = some s → s.hasTopLevel t.layout.typeVariable = true →
        s.params.length = d.arity ∧ ∀ type ∈ s.types, type.Rewritable) ∧
      (pattern.CastsSupplied → ∀ m, d.BridgeDescriptor t.layout m →
        m.returnType.className?.isSome = true)) := by
  have hchosen := chosen_of_classify h
  obtain ⟨names, hnames, hlength⟩ := hchosen.names
  have hrange := Pattern.inRange_of_names hnames
  rw [hlength] at hrange
  refine ⟨hrange, fun m hm => hm.arity, ?_⟩
  rw [exists_synthesize_iff hnames hlength]
  refine and_congr_right fun _ => and_congr_right fun _ => ?_
  refine ⟨fun h hcasts m hm => ?_, fun h m hm => ?_⟩
  · exact (accepts_iff_of_chosen hchosen hm).1 (h m hm) hcasts
  · exact (accepts_iff_of_chosen hchosen hm).2 fun hcasts => h hcasts m hm

end

/-- What is supplied is cast to the boxed type. -/
def smallSupplied : Declaration where
  origin := .generic
  flags := ["abstract".toList]
  name := "orElseGet".toList
  descriptor := ⟨[.object "S".toList], .object "A".toList⟩
  signature := some ⟨[], [.object "S".toList], ⟨"TT;".toList⟩, []⟩
  quote := none

open Catalog in
theorem synthesize_of_classify_small :
    smallSupplied.classify smallLayout = .ok (.bridge (.orElseGet .supplier)) ∧
    (Pattern.orElseGet .supplier).InRange smallSupplied.arity ∧
    ∃ block, smallSupplied.synthesize ⟨smallLayout, 7⟩ (.orElseGet .supplier) = .ok block := by
  have hclassify : smallSupplied.classify smallLayout = .ok (.bridge (.orElseGet .supplier)) := by
    decide +kernel
  obtain ⟨hrange, -, hiff⟩ := synthesize_of_classify (t := ⟨smallLayout, 7⟩) hclassify
  refine ⟨hclassify, hrange, hiff.2 ⟨exists_ok_of_isOk (by decide +kernel), ?_, ?_⟩⟩
  · rintro s ⟨⟩ -
    have hobject : (Descriptor.object "S".toList).Rewritable :=
      (Descriptor.mentioned_object (by rw [Text.BracketFree]; decide)).1
    have hvariable : Descriptor.Rewritable ⟨"TT;".toList⟩ :=
      Descriptor.rewritable_of_mapVariables
        (Descriptor.mapVariables_variable "T".toList (f := fun _ => some []) rfl)
    exact ⟨rfl, List.forall_mem_cons.2 ⟨hobject, List.forall_mem_singleton.2 hvariable⟩⟩
  · rintro - m hm
    cases hm with
    | plain hplain => exact absurd hplain (by decide)
    | @variant s p _ hs _ hm =>
      cases hs
      rw [(boxedAt_of_specializedDescriptor hm).returnType, if_pos (by decide),
        Primitive.boxedDescriptor, Descriptor.className?_object p.bracketFree_boxed]
      rfl

end Declaration

end ErasedBridges
