import ErasedBridges.Proofs.Body.Tables
import ErasedBridges.Proofs.Bridge.Body
import ErasedBridges.Proofs.Bridge.Expansion
import ErasedBridges.Proofs.Signature.Substitution

/-!
# The eight variants of a declaration

A declaration with the type variable at the top of its signature has one bridge for each
primitive. The boxed type stands exactly where the signature has the variable, so no two of the
bridges have the same descriptor, and the variable is gone from the signature and from the table
of variable types. Only the generic type of the receiver still has it.
-/

namespace ErasedBridges

open Descriptor

/-! ### Boxed types -/

namespace Primitive

theorem bracketFree_boxed (p : Primitive) : Text.BracketFree p.boxed := by
  rw [Text.BracketFree]
  cases p <;> decide

theorem isToken_boxedDescriptor (p : Primitive) : p.boxedDescriptor.IsToken :=
  isToken_object p.bracketFree_boxed

theorem rewritable_boxedDescriptor (p : Primitive) : p.boxedDescriptor.Rewritable :=
  (mentioned_object p.bracketFree_boxed).1

theorem mentioned_boxedDescriptor (p : Primitive) : p.boxedDescriptor.mentioned = [] :=
  (mentioned_object p.bracketFree_boxed).2

theorem caret_notMem_boxedDescriptor (p : Primitive) : '^' ∉ p.boxedDescriptor.text := by
  cases p <;> decide

theorem boxedDescriptor_injective : Function.Injective boxedDescriptor := by
  have hfind (p : Primitive) : all.find? (·.boxedDescriptor = p.boxedDescriptor) = some p := by
    cases p <;> decide
  intro p q h
  have hp := hfind p
  rw [h, hfind q] at hp
  exact (Option.some.inj hp).symm

theorem nodup_all : all.Nodup := by decide

end Primitive

namespace MethodSignature

variable {s s' : MethodSignature} {name : Text} {d d₁ d₂ : MethodDescriptor}

theorem BoxedAt.boxed_eq {boxed₁ boxed₂ : Descriptor} (hvar : s.hasTopLevel name = true)
    (h₁ : s.BoxedAt name boxed₁ d d₁) (h₂ : s.BoxedAt name boxed₂ d d₂) (h : d₁ = d₂) :
    boxed₁ = boxed₂ := by
  subst h
  obtain ⟨type, htype, hvariable⟩ := hasTopLevel_eq_true.1 hvar
  rcases List.mem_cons.1 htype with rfl | hparam
  · have hreturn := h₁.returnType.symm.trans h₂.returnType
    rwa [if_pos hvariable, if_pos hvariable] at hreturn
  · obtain ⟨i, hi⟩ := List.mem_iff_getElem?.1 hparam
    obtain ⟨hlt, -⟩ := List.getElem?_eq_some_iff.1 hi
    have herased := List.getElem?_eq_getElem (h₁.arity ▸ hlt)
    have hpicked := (h₁.params i _ _ hi herased).symm.trans (h₂.params i _ _ hi herased)
    rw [if_pos hvariable, if_pos hvariable] at hpicked
    exact Option.some.inj hpicked

/-- Without the variable among the parameters these are the declaration's own. -/
theorem BoxedAt.params_eq {boxed : Descriptor} (h : s.BoxedAt name boxed d d₁)
    (hnone : ∀ type ∈ s.params, type.isVariable name = false) : d₁.params = d.params := by
  refine List.ext_getElem h.length fun i hi hi' => ?_
  have hgeneric := List.getElem?_eq_getElem (h.arity.symm ▸ hi')
  have hpicked := h.params i _ _ hgeneric (List.getElem?_eq_getElem hi')
  rw [hnone _ (List.getElem_mem _), if_neg Bool.false_ne_true, List.getElem?_eq_getElem hi]
    at hpicked
  exact Option.some.inj hpicked

/-- A boxed type in the place of the variable leaves a signature that is read back and does not
mention the variable. -/
theorem variable_gone_of_substitute {p : Primitive} (hs : s.WellFormed)
    (h : s.substitute name p.boxedDescriptor = .ok s') :
    s'.WellFormed ∧ ∀ type ∈ s'.types, type.mentions name = .ok false := by
  have htoken := p.isToken_boxedDescriptor
  have hrewritable := p.rewritable_boxedDescriptor
  refine ⟨hs.substitute htoken hrewritable p.caret_notMem_boxedDescriptor h, ?_⟩
  refine mentions_substitute htoken hrewritable hs ?_ h
  rw [p.mentioned_boxedDescriptor]
  exact List.not_mem_nil

end MethodSignature

/-! ### Local variables -/

namespace Declaration

/-- The first entry is that of the receiver, and the others have types of the signature. -/
theorem variableTypeEntries_bodyLocals (l : Layout) (thisGeneric : Descriptor) (names : List Text)
    (descriptor : MethodDescriptor) (s : MethodSignature) (is : List Instruction) :
    ∃ this others,
      (Body.of (bodyLocals l thisGeneric names descriptor (some s)) is).variableTypeEntries =
        this :: others ∧ this.name = "this".toList ∧
      ∀ e ∈ others, ∃ type ∈ s.params, e.descriptor = type.text := by
  rw [Body.variableTypeEntries, Body.of, bodyLocals, Body.placedFrom, List.filterMap_cons]
  refine ⟨_, _, rfl, rfl, fun e he => ?_⟩
  obtain ⟨⟨slot, v⟩, hplaced, hentry⟩ := List.mem_filterMap.1 he
  obtain ⟨type, htype, rfl⟩ := Option.map_eq_some_iff.1 hentry
  obtain ⟨i, hi, rfl⟩ := List.mem_mapIdx.1 (Body.mem_of_mem_placedFrom hplaced)
  obtain ⟨hgeneric, -⟩ := Option.filter_eq_some_iff.1 htype
  exact ⟨type, List.mem_of_getElem? hgeneric, rfl⟩

end Declaration

theorem Bridge.exists_of_signature_mem {b : Bridge} {line : SignatureText}
    (h : .signature line ∈ b.method.attributes) : ∃ s ∈ b.signature, line.value = s.text := by
  have hline : b.signatureAttribute? = some (.signature line) := by
    rw [method, List.mem_cons, List.mem_append, Option.mem_toList] at h
    rcases h with h | h | h
    · cases h
    · split at h
      · cases h
      · cases List.mem_singleton.1 h
    · exact h
  obtain ⟨s, hs, he⟩ := Option.map_eq_some_iff.1 hline
  cases he
  exact ⟨s, (Option.filter_eq_some_iff.1 hs).1, rfl⟩

/-! ### Variants -/

/-- What is read from the text of the bridge for the variant `p` of a declaration with the
signature `s` and the descriptor `d`. -/
structure Bridge.IsVariant (l : Layout) (s : MethodSignature) (d : MethodDescriptor)
    (p : Primitive) (b : Bridge) : Prop where
  variant : b.variant = some p
  descriptor : ∃ d', MethodDescriptor.parse b.method.descriptor = .ok d' ∧
    s.BoxedAt l.typeVariable p.boxedDescriptor d d'
  signature : ∀ line, .signature line ∈ b.method.attributes →
    ∃ s', MethodSignature.parse line.value = .ok s' ∧
      ∀ type ∈ s'.types, type.mentions l.typeVariable = .ok false
  localTypes : ∀ code ∈ b.method.code?, ∀ entries, .localTypes entries ∈ code.items →
    ∃ this others, entries = this :: others ∧ this.name = "this".toList ∧
      ∀ e ∈ others, ∃ type, Descriptor.parse e.descriptor = .ok type ∧
        type.mentions l.typeVariable = .ok false
  covariant : b.covariant = true ↔ s.returnType.isVariable l.typeVariable = true ∧
    ∀ type ∈ s.params, type.isVariable l.typeVariable = false
  sameParams : b.covariant = true →
    b.method.descriptor = MethodDescriptor.text ⟨d.params, b.descriptor.returnType⟩

namespace Declaration

variable {t : Target} {pattern : Pattern} {d : Declaration} {s : MethodSignature}

theorem parse_specializedDescriptor {l : Layout} {p : Primitive} {descriptor : MethodDescriptor}
    (hd : MethodDescriptor.parse d.descriptor.text = .ok d.descriptor)
    (h : d.specializedDescriptor l p s = .ok descriptor) :
    MethodDescriptor.parse descriptor.text = .ok descriptor := by
  obtain ⟨-, hparams, hreturn⟩ := MethodDescriptor.parse_eq_ok_iff.1 hd
  have hboxed := p.isToken_boxedDescriptor
  exact MethodDescriptor.parse_eq_ok_iff.2
    ⟨rfl, (forall_specializedDescriptor h hboxed).1 hparams,
      (forall_specializedDescriptor (P := fun type => Descriptor.parse type.text = .ok type) h
        (isToken_iff_parse.1 hboxed).1).2 hreturn⟩

theorem isCovariant_iff {l : Layout} (hs : d.signature = some s) :
    d.isCovariant l = true ↔ s.returnType.isVariable l.typeVariable = true ∧
      ∀ type ∈ s.params, type.isVariable l.typeVariable = false := by
  simp [isCovariant, hs]

theorem isVariant_of_variantBridge {p : Primitive} {b : Bridge} (hs : d.signature = some s)
    (hparsed : MethodDescriptor.parse d.descriptor.text = .ok d.descriptor) (hwell : s.WellFormed)
    (h : d.variantBridge t pattern s p = .ok b) : b.IsVariant t.layout s d.descriptor p := by
  obtain ⟨descriptor, hdescriptor, signature, hsignature, hbridge⟩ := variantBridge_eq_ok.1 h
  obtain ⟨body, hbody, rfl⟩ := bridge_eq_ok.1 hbridge
  obtain ⟨names, thisGeneric, is, -, -, -, -, rfl⟩ := body_eq_ok.1 hbody
  obtain ⟨hwell', hgone⟩ := MethodSignature.variable_gone_of_substitute hwell hsignature
  have hboxed := boxedAt_of_specializedDescriptor hdescriptor
  refine ⟨rfl, ⟨descriptor, parse_specializedDescriptor hparsed hdescriptor, hboxed⟩,
    fun line hline => ?_, ?_, isCovariant_iff hs, fun hcovariant => ?_⟩
  · obtain ⟨_, ⟨⟩, htext⟩ := Bridge.exists_of_signature_mem hline
    exact ⟨signature, MethodSignature.parse_eq_ok_iff.2 ⟨htext, hwell'⟩, hgone⟩
  · rintro code ⟨⟩ entries hentries
    obtain ⟨this, others, hall, hthis, hothers⟩ :=
      variableTypeEntries_bodyLocals t.layout thisGeneric names descriptor signature is
    refine ⟨this, others, (Body.localTypes_of_mem_layOut hentries).trans hall, hthis, ?_⟩
    intro e he
    obtain ⟨type, htype, hdescr⟩ := hothers e he
    rw [hdescr]
    exact ⟨type, (isToken_iff_parse.1 (hwell'.params type htype)).1, hgone type
      (List.mem_append_right _ (List.mem_append_left _ htype))⟩
  · have hparams := hboxed.params_eq ((isCovariant_iff hs).1 hcovariant).2
    show descriptor.text = _
    rw [← hparams]

/-- The bridges of a declaration with the type variable at the top of its signature are its
variants in their order, and no two of them have the same descriptor. -/
theorem variants_of_synthesize_of_variable {block : List Bridge} (hs : d.signature = some s)
    (hdescriptor : MethodDescriptor.parse d.descriptor.text = .ok d.descriptor)
    (hsignature : MethodSignature.parse s.text = .ok s)
    (hvar : s.hasTopLevel t.layout.typeVariable = true) (h : d.synthesize t pattern = .ok block) :
    List.Forall₂ (Bridge.IsVariant t.layout s d.descriptor) Primitive.all block ∧
      (block.map (·.method.descriptor)).Nodup := by
  have hvariants : List.Forall₂ (Bridge.IsVariant t.layout s d.descriptor) Primitive.all block :=
    (mapM_eq_ok.1 ((synthesize_eq_ok_of_variable hs hvar).1 h)).imp fun p b hb =>
      isVariant_of_variantBridge hs hdescriptor (MethodSignature.parse_eq_ok_iff.1 hsignature).2 hb
  obtain ⟨hlength, hget⟩ := List.forall₂_iff_get.1 hvariants
  refine ⟨hvariants, ?_⟩
  rw [List.Nodup, List.pairwise_map, List.pairwise_iff_getElem]
  intro i j hi hj hij heq
  obtain ⟨d₁, hparse₁, hboxed₁⟩ := (hget i (hlength ▸ hi) hi).descriptor
  obtain ⟨d₂, hparse₂, hboxed₂⟩ := (hget j (hlength ▸ hj) hj).descriptor
  have hsame : d₁ = d₂ := Except.ok.inj (hparse₁.symm.trans ((congrArg _ heq).trans hparse₂))
  have hprimitive := Primitive.boxedDescriptor_injective (hboxed₁.boxed_eq hvar hboxed₂ hsame)
  exact List.pairwise_iff_getElem.1 Primitive.nodup_all i j _ _ hij hprimitive

open Catalog in
theorem variants_small : ∃ e ∈ smallCatalog, ∃ block,
    e.declaration.signature = some smallSignature ∧
    MethodDescriptor.parse e.declaration.descriptor.text = .ok e.declaration.descriptor ∧
    MethodSignature.parse smallSignature.text = .ok smallSignature ∧
    smallSignature.hasTopLevel smallLayout.typeVariable = true ∧
    e.declaration.synthesize ⟨smallLayout, 7⟩ e.pattern = .ok block ∧
    List.Forall₂ (Bridge.IsVariant smallLayout smallSignature e.declaration.descriptor)
      Primitive.all block ∧
    (block.map (·.method.descriptor)).Nodup := by
  have hmem : (⟨⟨.generic, ["abstract".toList], "orElse".toList, smallDescriptor,
      some smallSignature, none⟩, .orElse⟩ : CatalogEntry) ∈ smallCatalog := List.mem_cons_self
  obtain ⟨block, hblock, -⟩ := exists_of_synthesize synthesize_small hmem
  have hdescriptor : MethodDescriptor.parse smallDescriptor.text = .ok smallDescriptor := by
    decide +kernel
  have hsignature : MethodSignature.parse smallSignature.text = .ok smallSignature := by
    decide +kernel
  have hvar : smallSignature.hasTopLevel smallLayout.typeVariable = true := by decide
  exact ⟨_, hmem, block, rfl, hdescriptor, hsignature, hvar, hblock,
    variants_of_synthesize_of_variable rfl hdescriptor hsignature hvar hblock⟩

end Declaration

end ErasedBridges
