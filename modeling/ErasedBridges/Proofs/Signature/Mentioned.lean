import ErasedBridges.Proofs.Signature.Substitution

/-!
# The variables of a signature

A rewriting meets the variables of a signature type by type, and in each type from left to right.
A type in the place of a variable leaves the signature readable and in its shape, and the variables
of the type are met where the variable was.
-/

namespace ErasedBridges

open Descriptor

instance (s : Text) : Decidable (Text.BracketFree s) :=
  inferInstanceAs (Decidable (∀ c ∈ s, c ≠ '<' ∧ c ≠ '>' ∧ c ≠ ';'))

/-! ### Shapes -/

/-- The second parameter has the name of the first and as many bounds of each kind. -/
structure TypeParameter.SameShape (p p' : TypeParameter) : Prop where
  name : p'.name = p.name
  classBound : p'.classBound.isSome = p.classBound.isSome
  interfaceBounds : p'.interfaceBounds.length = p.interfaceBounds.length

structure MethodSignature.SameShape (s s' : MethodSignature) : Prop where
  typeParams : List.Forall₂ TypeParameter.SameShape s.typeParams s'.typeParams
  params : s'.params.length = s.params.length
  throws : s'.throws.length = s.throws.length

variable {f : Text → Option Text}

theorem TypeParameter.sameShape_mapVariables {p p' : TypeParameter}
    (h : p.mapVariables f = .ok p') : p.SameShape p' := by
  obtain ⟨hname, hclass, hinterfaces⟩ := mapVariables_eq_ok.1 h
  refine ⟨hname, ?_, hinterfaces.length_eq.symm⟩
  have hlength := hclass.length_eq
  cases hb : p.classBound with
  | none => cases hb' : p'.classBound <;> simp [hb, hb'] at hlength ⊢
  | some b => cases hb' : p'.classBound <;> simp [hb, hb'] at hlength ⊢

theorem MethodSignature.sameShape_mapVariables {s s' : MethodSignature}
    (h : s.mapVariables f = .ok s') : s.SameShape s' := by
  obtain ⟨htypeParams, hparams, -, hthrows⟩ := mapVariables_eq_ok.1 h
  exact ⟨htypeParams.imp fun _ _ => TypeParameter.sameShape_mapVariables,
    hparams.length_eq.symm, hthrows.length_eq.symm⟩

/-! ### Names -/

def MethodSignature.names (s : MethodSignature) : List Text := s.typeParams.map TypeParameter.name

theorem MethodSignature.SameShape.names_eq {s s' : MethodSignature} (h : s.SameShape s') :
    s'.names = s.names := by
  rw [names, names]
  have hall := h.typeParams
  generalize s.typeParams = ps, s'.typeParams = ps' at hall ⊢
  induction hall with
  | nil => rfl
  | cons hp hps ih => rw [List.map_cons, List.map_cons, hp.name, ih]

namespace Descriptor

/-- The names that are met where `other` was, once `type` stands for `name`. -/
def replaced (name : Text) (type : Descriptor) (other : Text) : List Text :=
  if other = name then type.mentioned else [other]

variable {name : Text} {type : Descriptor}

theorem mentioned_of_rewrites (htype : type.IsToken) (hrewritable : type.Rewritable)
    {ds ds' : List Descriptor} (h : Rewrites (replacing name type) ds ds')
    (hds : ∀ d ∈ ds, parse d.text = .ok d) :
    (∀ d' ∈ ds', d'.Rewritable) ∧
      ds'.flatMap mentioned = (ds.flatMap mentioned).flatMap (replaced name type) := by
  induction h with
  | nil => exact ⟨List.forall_mem_nil _, rfl⟩
  | cons hd hrest ih =>
    obtain ⟨hparse, hds⟩ := List.forall_mem_cons.1 hds
    obtain ⟨-, hd', hmentioned⟩ := parse_substitute hparse htype hrewritable hd
    obtain ⟨hds', hmentionedRest⟩ := ih hds
    refine ⟨List.forall_mem_cons.2 ⟨hd', hds'⟩, ?_⟩
    rw [List.flatMap_cons, List.flatMap_cons, List.flatMap_append, hmentioned, hmentionedRest]
    rfl

section

variable {Name : Text → Prop} (hName : Scannable Name) (e : TypeTree Name)

include hName

theorem mapVariables_eq_ok_of_tree {d d' : Descriptor} (htext : e.text = d.text)
    (hrewritten : e.rewritten f = d'.text) : d.mapVariables f = .ok d' := by
  rw [mapVariables_eq_ok, ← htext, ← hrewritten, e.walk hName]
  rfl

theorem mentioned_eq_of_tree {d : Descriptor} (htext : e.text = d.text) :
    d.mentioned = e.mentioned := by
  rw [mentioned, ← htext, e.walk hName]
  rfl

end

end Descriptor

/-! ### Substitution -/

namespace MethodSignature

def mentioned (s : MethodSignature) : List Text := s.types.flatMap Descriptor.mentioned

/-- A signature in which a type stands for a variable is read back from its text. It has the shape
that it had, and the variables of the type are met in the place of the variable. -/
theorem parse_text_of_substitute {text typeText name : Text} {s s' : MethodSignature}
    {type same : Descriptor} (hs : parse text = .ok s)
    (htype : Descriptor.parse typeText = .ok type) (hvoid : type ≠ .void)
    (hcaret : '^' ∉ type.text) (hmap : type.mapVariables f = .ok same)
    (h : s.substitute name type = .ok s') :
    parse s'.text = .ok s' ∧ s.SameShape s' ∧
    (∀ g, ∃ s'', s'.mapVariables g = .ok s'') ∧
    s'.mentioned = s.mentioned.flatMap (replaced name type) ∧
    (type.mentions name = .ok false → ∀ d ∈ s'.types, d.mentions name = .ok false) := by
  obtain ⟨-, hwellFormed⟩ := parse_eq_ok_iff.1 hs
  have htoken : type.IsToken := by
    rw [isToken_iff_parse, text_of_parse htype]
    exact ⟨htype, hvoid⟩
  have hrewritable := rewritable_of_mapVariables hmap
  obtain ⟨htypes, hmentioned⟩ :=
    mentioned_of_rewrites htoken hrewritable (rewrites_types h) hwellFormed.parse_types
  refine ⟨?_, sameShape_mapVariables h, ?_, hmentioned, ?_⟩
  · exact parse_eq_ok_iff.2 ⟨rfl, hwellFormed.substitute htoken hrewritable hcaret h⟩
  · intro g
    exact exists_mapVariables_iff.2 fun d hd => htypes d hd g
  · intro hgone
    have hnot : name ∉ type.mentioned := fun hmem => by
      rw [mentions_eq_ok hrewritable, List.elem_iff.2 hmem] at hgone
      cases hgone
    exact mentions_substitute htoken hrewritable hwellFormed hnot h

/-! `LB<TU;>;` in the place of `T`, in a bound, in an array and in an argument. -/

def nestedText : Text := "<T:LA;:LI<TT;>;U:LA;>([TT;)LI<TT;>;^TU;".toList

def nestedSignature : MethodSignature where
  typeParams := [⟨['T'], some ⟨"LA;".toList⟩, [⟨"LI<TT;>;".toList⟩]⟩,
    ⟨['U'], some ⟨"LA;".toList⟩, []⟩]
  params := [⟨"[TT;".toList⟩]
  returnType := ⟨"LI<TT;>;".toList⟩
  throws := [⟨"TU;".toList⟩]

def nestedType : Descriptor := ⟨"LB<TU;>;".toList⟩

def nestedSubstituted : MethodSignature where
  typeParams := [⟨['T'], some ⟨"LA;".toList⟩, [⟨"LI<LB<TU;>;>;".toList⟩]⟩,
    ⟨['U'], some ⟨"LA;".toList⟩, []⟩]
  params := [⟨"[LB<TU;>;".toList⟩]
  returnType := ⟨"LI<LB<TU;>;>;".toList⟩
  throws := [⟨"TU;".toList⟩]

def nestedTree (name argument : Text) (hname : Text.BracketFree name)
    (hargument : Text.BracketFree argument) : TypeTree Text.BracketFree :=
  .object (.plain name hname (.arguments (.type none (.reference argument hargument) .nil) .nil))

theorem substitute_nested :
    nestedSignature.substitute ['T'] nestedType = .ok nestedSubstituted := by
  have hobject : Descriptor.mapVariables (replacing ['T'] nestedType) ⟨"LA;".toList⟩ =
      .ok ⟨"LA;".toList⟩ :=
    mapVariables_eq_ok_of_tree scannable_bracketFree (.object (.plain ['A'] (by decide) .nil))
      (by decide +kernel) (by decide +kernel)
  have hclass : Descriptor.mapVariables (replacing ['T'] nestedType) ⟨"LI<TT;>;".toList⟩ =
      .ok ⟨"LI<LB<TU;>;>;".toList⟩ :=
    mapVariables_eq_ok_of_tree scannable_bracketFree
      (nestedTree ['I'] ['T'] (by decide) (by decide)) (by decide +kernel) (by decide +kernel)
  have harray : Descriptor.mapVariables (replacing ['T'] nestedType) ⟨"[TT;".toList⟩ =
      .ok ⟨"[LB<TU;>;".toList⟩ :=
    mapVariables_eq_ok_of_tree scannable_bracketFree (.array (.reference ['T'] (by decide)))
      (by decide +kernel) (by decide +kernel)
  have hthrown : Descriptor.mapVariables (replacing ['T'] nestedType) ⟨"TU;".toList⟩ =
      .ok ⟨"TU;".toList⟩ :=
    mapVariables_eq_ok_of_tree scannable_bracketFree (.reference ['U'] (by decide))
      (by decide +kernel) (by decide +kernel)
  refine mapVariables_eq_ok.2
    ⟨.cons ?_ (.cons ?_ .nil), .cons harray .nil, hclass, .cons hthrown .nil⟩
  · exact TypeParameter.mapVariables_eq_ok.2 ⟨rfl, .cons hobject .nil, .cons hclass .nil⟩
  · exact TypeParameter.mapVariables_eq_ok.2 ⟨rfl, .cons hobject .nil, .nil⟩

theorem parse_text_of_substitute_nested :
    parse nestedText = .ok nestedSignature ∧ Descriptor.parse nestedType.text = .ok nestedType ∧
    nestedSignature.substitute ['T'] nestedType = .ok nestedSubstituted ∧
    parse nestedSubstituted.text = .ok nestedSubstituted ∧
    nestedSubstituted.mentioned = nestedSignature.mentioned.flatMap (replaced ['T'] nestedType) ∧
    ∀ d ∈ nestedSubstituted.types, d.mentions ['T'] = .ok false := by
  have hs : parse nestedText = .ok nestedSignature := by decide +kernel
  have htype : Descriptor.parse nestedType.text = .ok nestedType := by decide +kernel
  have htext : (nestedTree ['B'] ['U'] (by decide) (by decide)).text = nestedType.text := by
    decide +kernel
  have hmap : nestedType.mapVariables (fun _ => none) = .ok nestedType :=
    mapVariables_eq_ok_of_tree scannable_bracketFree _ htext (by decide +kernel)
  have hgone : nestedType.mentions ['T'] = .ok false := by
    rw [mentions_eq_ok (rewritable_of_mapVariables hmap),
      mentioned_eq_of_tree scannable_bracketFree _ htext]
    rfl
  obtain ⟨hparse, -, -, hmentioned, hmentions⟩ := parse_text_of_substitute hs htype (by decide)
    (by decide +kernel) hmap substitute_nested
  exact ⟨hs, htype, substitute_nested, hparse, hmentioned, hmentions hgone⟩

end MethodSignature

end ErasedBridges
