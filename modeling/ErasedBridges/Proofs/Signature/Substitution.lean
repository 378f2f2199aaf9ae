import ErasedBridges.Proofs.Bridge.Synthesis
import ErasedBridges.Proofs.Descriptor.Substitution
import ErasedBridges.Proofs.Signature.MethodGrammar

/-!
# Substitution in signatures

A rewriting of a signature rewrites its types one by one, and succeeds if each of them can be
rewritten. A type in the place of a variable leaves a well-formed signature well-formed, so that it
is read back from its text.
-/

namespace ErasedBridges

open Descriptor

/-- The descriptors of the second list are those of the first, rewritten one by one. -/
def Descriptor.Rewrites (f : Text → Option Text) : List Descriptor → List Descriptor → Prop :=
  List.Forall₂ fun d d' => d.mapVariables f = .ok d'

variable {f : Text → Option Text}

namespace TypeParameter

def bounds (p : TypeParameter) : List Descriptor := p.classBound.toList ++ p.interfaceBounds

/-- A rewriting keeps the name, and whether there is a bound by a class. -/
theorem mapVariables_eq_ok {p p' : TypeParameter} :
    p.mapVariables f = .ok p' ↔ p'.name = p.name ∧
      Rewrites f p.classBound.toList p'.classBound.toList ∧
      Rewrites f p.interfaceBounds p'.interfaceBounds := by
  obtain ⟨name, classBound, interfaceBounds⟩ := p
  obtain ⟨name', classBound', interfaceBounds'⟩ := p'
  cases classBound with
  | none =>
    rw [mapVariables, bind_eq_ok]
    simp only [bind_eq_ok, mapM_eq_ok]
    constructor
    · rintro ⟨_, hnone, bounds, hbounds, he⟩
      cases hnone
      cases he
      exact ⟨rfl, .nil, hbounds⟩
    · rintro ⟨rfl, hnone, hbounds⟩
      cases classBound' with
      | none => exact ⟨none, rfl, interfaceBounds', hbounds, rfl⟩
      | some b => cases hnone
  | some b =>
    rw [mapVariables, bind_eq_ok]
    simp only [bind_eq_ok, mapM_eq_ok, map_eq_ok]
    constructor
    · rintro ⟨_, ⟨b', hb, rfl⟩, bounds, hbounds, he⟩
      cases he
      exact ⟨rfl, .cons hb .nil, hbounds⟩
    · rintro ⟨rfl, hclass, hbounds⟩
      cases classBound' with
      | none => cases hclass
      | some b' =>
        cases hclass with
        | cons hb _ => exact ⟨some b', ⟨b', hb, rfl⟩, interfaceBounds', hbounds, rfl⟩

theorem rewrites_bounds {p p' : TypeParameter} (h : p.mapVariables f = .ok p') :
    Rewrites f p.bounds p'.bounds := by
  obtain ⟨-, hclass, hinterfaces⟩ := mapVariables_eq_ok.1 h
  exact List.rel_append hclass hinterfaces

theorem bounded_iff {p : TypeParameter} : p.Bounded ↔ p.bounds ≠ [] := by
  rw [Bounded, bounds]
  cases p.classBound <;> simp

theorem Bounded.mapVariables {p p' : TypeParameter} (hp : p.Bounded)
    (h : p.mapVariables f = .ok p') : p'.Bounded := by
  rw [bounded_iff, ← List.length_pos_iff] at hp ⊢
  rw [← (rewrites_bounds h).length_eq]
  exact hp

theorem exists_mapVariables_iff {p : TypeParameter} :
    (∃ p', p.mapVariables f = .ok p') ↔ ∀ d ∈ p.bounds, ∃ d', d.mapVariables f = .ok d' := by
  rw [bounds, List.forall_mem_append, ← exists_forall₂_iff, ← exists_forall₂_iff]
  constructor
  · rintro ⟨p', hp⟩
    obtain ⟨-, hclass, hbounds⟩ := mapVariables_eq_ok.1 hp
    exact ⟨⟨_, hclass⟩, _, hbounds⟩
  · rintro ⟨⟨classBound, hclass⟩, interfaceBounds, hbounds⟩
    -- There is at most one bound by a class, and so at most one rewritten.
    obtain ⟨b?, rfl⟩ : ∃ b? : Option Descriptor, classBound = b?.toList := by
      cases hb : p.classBound with
      | none =>
        rw [hb] at hclass
        cases hclass
        exact ⟨none, rfl⟩
      | some b =>
        rw [hb] at hclass
        cases hclass with
        | cons _ hnil =>
          cases hnil
          exact ⟨some _, rfl⟩
    exact ⟨⟨p.name, b?, interfaceBounds⟩, mapVariables_eq_ok.2 ⟨rfl, hclass, hbounds⟩⟩

end TypeParameter

namespace MethodSignature

def types (s : MethodSignature) : List Descriptor :=
  s.typeParams.flatMap TypeParameter.bounds ++ (s.params ++ s.returnType :: s.throws)

theorem rewrites_types {s s' : MethodSignature} (h : s.mapVariables f = .ok s') :
    Rewrites f s.types s'.types := by
  obtain ⟨htypeParams, hparams, hreturn, hthrows⟩ := mapVariables_eq_ok.1 h
  have hbounds : Rewrites f (s.typeParams.flatMap TypeParameter.bounds)
      (s'.typeParams.flatMap TypeParameter.bounds) :=
    List.rel_flatMap htypeParams fun p p' => TypeParameter.rewrites_bounds
  exact List.rel_append hbounds (List.rel_append hparams (.cons hreturn hthrows))

/-- A signature can be rewritten if all its types can. -/
theorem exists_mapVariables_iff {s : MethodSignature} :
    (∃ s', s.mapVariables f = .ok s') ↔ ∀ d ∈ s.types, ∃ d', d.mapVariables f = .ok d' := by
  constructor
  · rintro ⟨s', hs⟩
    exact exists_forall₂_iff.1 ⟨_, rewrites_types hs⟩
  · intro h
    simp only [types, List.forall_mem_append, List.forall_mem_cons, List.forall_mem_flatMap] at h
    obtain ⟨htypeParams, hparams, ⟨returnType, hreturn⟩, hthrows⟩ := h
    obtain ⟨typeParams, htypeParams⟩ := exists_forall₂_iff.2 fun p hp =>
      TypeParameter.exists_mapVariables_iff.2 (htypeParams p hp)
    obtain ⟨params, hparams⟩ := exists_forall₂_iff.2 hparams
    obtain ⟨throws, hthrows⟩ := exists_forall₂_iff.2 hthrows
    exact ⟨⟨typeParams, params, returnType, throws⟩,
      mapVariables_eq_ok.2 ⟨htypeParams, hparams, hreturn, hthrows⟩⟩

end MethodSignature

/-! ### Types in the place of a variable -/

section

variable {name : Text} {type : Descriptor} (htype : type.IsToken) (hrewritable : type.Rewritable)

abbrev replacing (name : Text) (type : Descriptor) : Text → Option Text :=
  fun other => if other = name then some type.text else none

include htype hrewritable

theorem Descriptor.forall_isToken_of_rewrites {ds ds' : List Descriptor}
    (h : Rewrites (replacing name type) ds ds') (hds : ∀ d ∈ ds, d.IsToken) :
    ∀ d ∈ ds', d.IsToken := by
  intro d' hd'
  obtain ⟨d, hd, hmap⟩ := exists_of_mem_mapM (mapM_eq_ok.2 h) hd'
  exact (isToken_substitute (hds d hd) htype hrewritable hmap).1

theorem TypeParameter.WellFormed.substitute {p p' : TypeParameter} (hp : p.WellFormed)
    (h : p.mapVariables (replacing name type) = .ok p') : p'.WellFormed := by
  obtain ⟨hname, hclass, hbounds⟩ := mapVariables_eq_ok.1 h
  have hclassTokens := forall_isToken_of_rewrites htype hrewritable hclass fun b hb =>
    hp.classBound b (Option.mem_toList.1 hb)
  exact ⟨hname ▸ hp.name_ne_nil, hname ▸ hp.name,
    fun b hb => hclassTokens b (Option.mem_toList.2 hb),
    forall_isToken_of_rewrites htype hrewritable hbounds hp.interfaceBounds⟩

theorem TypeParameter.WellFormedList.substitute {ps ps' : List TypeParameter}
    (hps : WellFormedList ps)
    (h : List.Forall₂ (fun p p' => p.mapVariables (replacing name type) = .ok p') ps ps') :
    WellFormedList ps' := by
  induction h with
  | nil => exact wellFormedList_nil
  | cons hp hrest ih =>
    obtain ⟨hwellFormed, hbounded, hps⟩ := wellFormedList_cons.1 hps
    refine wellFormedList_cons.2 ⟨hwellFormed.substitute htype hrewritable hp, ?_, ih hps⟩
    rcases hbounded with rfl | hbounded
    · cases hrest
      exact Or.inl rfl
    · exact Or.inr (hbounded.mapVariables hp)

namespace MethodSignature

/-- A caret in the type would end the return type. -/
theorem WellFormed.substitute {s s' : MethodSignature} (hs : s.WellFormed)
    (hcaret : '^' ∉ type.text) (h : s.substitute name type = .ok s') : s'.WellFormed := by
  obtain ⟨htypeParams, hparams, hreturn, hthrows⟩ := mapVariables_eq_ok.1 h
  refine ⟨hs.typeParams.substitute htype hrewritable htypeParams,
    forall_isToken_of_rewrites htype hrewritable hparams hs.params,
    (parse_substitute hs.returnType htype hrewritable hreturn).1, fun hc => ?_,
    forall_isToken_of_rewrites htype hrewritable hthrows hs.throws⟩
  exact (mem_substitute hs.returnType hreturn hc).elim hs.caret hcaret

omit htype hrewritable in
theorem WellFormed.parse_types {s : MethodSignature} (hs : s.WellFormed) :
    ∀ d ∈ s.types, Descriptor.parse d.text = .ok d := by
  have htoken {ds : List Descriptor} (hds : ∀ d ∈ ds, d.IsToken) :
      ∀ d ∈ ds, Descriptor.parse d.text = .ok d := fun d hd => (isToken_iff_parse.1 (hds d hd)).1
  have hbounds : ∀ d ∈ s.typeParams.flatMap TypeParameter.bounds, d.IsToken := by
    refine List.forall_mem_flatMap.2 fun p hp => List.forall_mem_append.2 ⟨fun b hb => ?_, ?_⟩
    · exact (hs.typeParams.wellFormed p hp).classBound b (Option.mem_toList.1 hb)
    · exact (hs.typeParams.wellFormed p hp).interfaceBounds
  rw [types, List.forall_mem_append, List.forall_mem_append, List.forall_mem_cons]
  exact ⟨htoken hbounds, htoken hs.params, hs.returnType, htoken hs.throws⟩

/-- A variable is gone if the type in its place does not mention it. -/
theorem mentions_substitute {s s' : MethodSignature} (hs : s.WellFormed)
    (hgone : name ∉ type.mentioned) (h : s.substitute name type = .ok s') :
    ∀ d ∈ s'.types, d.mentions name = .ok false := by
  intro d' hd'
  obtain ⟨d, hd, hmap⟩ := exists_of_mem_mapM (mapM_eq_ok.2 (rewrites_types h)) hd'
  obtain ⟨-, hd'rewritable, hmentioned⟩ :=
    parse_substitute (hs.parse_types d hd) htype hrewritable hmap
  have hnot : name ∉ d'.mentioned := by
    rw [hmentioned, List.mem_flatMap]
    rintro ⟨other, -, hmem⟩
    split at hmem
    · exact hgone hmem
    · next hne => exact hne (List.mem_singleton.1 hmem).symm
  rw [mentions_eq_ok hd'rewritable, Bool.eq_false_iff.2 fun hmem => hnot (List.elem_iff.1 hmem)]

end MethodSignature

end

end ErasedBridges
