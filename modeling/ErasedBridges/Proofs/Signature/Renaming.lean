import ErasedBridges.Proofs.Signature.Mentioned

/-!
# Renaming a variable

A renaming changes the name at each place of the old name, where the variable is declared and where
it is referred to. Places of different names keep different names unless both names stand in the
signature before: then two variables become one.
-/

namespace ErasedBridges

open Descriptor

/-! ### Names at places -/

/-- Two places have the same name in the second list if and only if they have in the first. -/
structure SameNames (names names' : List Text) : Prop where
  length : names'.length = names.length
  same : ∀ i j : Nat, names'[i]? = names'[j]? ↔ names[i]? = names[j]?

def renamed (source target other : Text) : Text := if other = source then target else other

section

variable {source target : Text} {names : List Text}

theorem sameNames_map_iff {g : Text → Text} :
    SameNames names (names.map g) ↔ ∀ a ∈ names, ∀ b ∈ names, g a = g b → a = b := by
  constructor
  · intro h a ha b hb hg
    obtain ⟨i, hi⟩ := List.mem_iff_getElem?.1 ha
    obtain ⟨j, hj⟩ := List.mem_iff_getElem?.1 hb
    have hij : names[i]? = names[j]? := (h.same i j).1 (by simp [hi, hj, hg])
    rw [hi, hj] at hij
    exact Option.some.inj hij
  · intro h
    refine ⟨List.length_map _, fun i j => ?_⟩
    rw [List.getElem?_map, List.getElem?_map]
    refine ⟨fun hij => ?_, fun hij => by rw [hij]⟩
    cases hi : names[i]? with
    | none => cases hj : names[j]? <;> simp [hi, hj] at hij ⊢
    | some a =>
      cases hj : names[j]? with
      | none => simp [hi, hj] at hij
      | some b =>
        rw [hi, hj] at hij
        exact congrArg some (h a (List.mem_of_getElem? hi) b (List.mem_of_getElem? hj)
          (Option.some.inj hij))

/-- Only the old name and the new one can fall together. -/
theorem renamed_injective_iff (hne : source ≠ target) :
    (∀ a ∈ names, ∀ b ∈ names, renamed source target a = renamed source target b → a = b) ↔
      ¬(source ∈ names ∧ target ∈ names) := by
  constructor
  · rintro h ⟨hsource, htarget⟩
    refine hne (h source hsource target htarget ?_)
    rw [renamed, renamed, if_pos rfl, if_neg hne.symm]
  · intro h a ha b hb hab
    rw [renamed, renamed] at hab
    by_cases hsource : a = source
    · by_cases hsource' : b = source
      · exact hsource.trans hsource'.symm
      · rw [if_pos hsource, if_neg hsource'] at hab
        exact absurd ⟨hsource ▸ ha, hab ▸ hb⟩ h
    · by_cases hsource' : b = source
      · rw [if_neg hsource, if_pos hsource'] at hab
        exact absurd ⟨hsource' ▸ hb, hab ▸ ha⟩ h
      · rwa [if_neg hsource, if_neg hsource'] at hab

theorem renamed_self (other : Text) : renamed source source other = other := by
  rw [renamed]
  by_cases hother : other = source
  · rw [if_pos hother, hother]
  · rw [if_neg hother]

end

/-! ### References -/

namespace Descriptor

def reference (name : Text) : Descriptor := ⟨'T' :: (name ++ [';'])⟩

variable {source target : Text}

/-- A reference is one token, and a walk over it meets the one name. -/
theorem reference_spec {name : Text} (h : IsName name) : (reference name).IsToken ∧
    (reference name).Rewritable ∧ (reference name).mentioned = [name] := by
  let e : TypeTree IsName := .reference name h
  have htext : reference name = ⟨e.text⟩ := congrArg Descriptor.mk (TypeTree.text_reference h).symm
  rw [htext]
  exact ⟨e.isToken scannable_isName, rewritable_text e, mentioned_text e⟩

theorem mapVariables_reference {name : Text} (h : IsName name) :
    (reference name).mapVariables (replacing source (reference target)) =
      .ok (reference (renamed source target name)) := by
  refine mapVariables_eq_ok_of_tree scannable_isName (.reference name h)
    (TypeTree.text_reference h) ?_
  rw [TypeTree.rewritten, TypeTree.parts, List.flatMap_singleton, TypePart.rewritten, replacing,
    renamed]
  by_cases hname : name = source
  · rw [if_pos hname, if_pos hname]
    rfl
  · rw [if_neg hname, if_neg hname]
    rfl

theorem replaced_reference (htarget : IsName target) (other : Text) :
    replaced source (reference target) other = [renamed source target other] := by
  obtain ⟨-, -, hmentioned⟩ := reference_spec htarget
  rw [replaced, renamed, hmentioned]
  by_cases hother : other = source
  · rw [if_pos hother, if_pos hother]
  · rw [if_neg hother, if_neg hother]

theorem mentioned_of_renames (htarget : IsName target) {ds ds' : List Descriptor}
    (h : Rewrites (replacing source (reference target)) ds ds')
    (hds : ∀ d ∈ ds, parse d.text = .ok d) :
    ds'.flatMap mentioned = (ds.flatMap mentioned).map (renamed source target) := by
  obtain ⟨htoken, hrewritable, -⟩ := reference_spec htarget
  rw [(mentioned_of_rewrites htoken hrewritable h hds).2, List.map_eq_flatMap]
  congr 1
  funext other
  exact replaced_reference htarget other

end Descriptor

/-! ### Signatures -/

namespace TypeParameter

/-- The declaration and the references in the bounds. -/
def places (p : TypeParameter) : List Text := p.name :: p.bounds.flatMap mentioned

def rename (source target : Text) (p : TypeParameter) : TypeParameter :=
  { p with name := renamed source target p.name }

variable {source target : Text}

theorem places_rename (htarget : IsName target) {ps ps' : List TypeParameter}
    (h : List.Forall₂ (fun p p' => p.mapVariables (replacing source (reference target)) = .ok p')
      ps ps')
    (hps : ∀ p ∈ ps, ∀ d ∈ p.bounds, Descriptor.parse d.text = .ok d) :
    (ps'.map (rename source target)).flatMap places =
      (ps.flatMap places).map (renamed source target) := by
  induction h with
  | nil => rfl
  | @cons p p' ps ps' hp hrest ih =>
    obtain ⟨hbounds, hps⟩ := List.forall_mem_cons.1 hps
    have hname : p'.name = p.name := (mapVariables_eq_ok.1 hp).1
    have hplaces : (p'.rename source target).places = p.places.map (renamed source target) := by
      rw [places, places, List.map_cons, ← hname,
        ← mentioned_of_renames htarget (rewrites_bounds hp) hbounds]
      rfl
    rw [List.map_cons, List.flatMap_cons, List.flatMap_cons, List.map_append, hplaces, ih hps]

end TypeParameter

namespace MethodSignature

/-- All places of a name: the declarations with their bounds, and then the other types. -/
def places (s : MethodSignature) : List Text :=
  s.typeParams.flatMap TypeParameter.places ++
    (s.params ++ s.returnType :: s.throws).flatMap Descriptor.mentioned

variable {source target : Text} {s s' : MethodSignature}

/-- First the references are renamed and then the declarations. -/
theorem rename_eq_ok : s.rename source target = .ok s' ↔
    ∃ referred, s.substitute source (reference target) = .ok referred ∧
      { referred with typeParams := referred.typeParams.map (.rename source target) } = s' := by
  have hdeclared (p : TypeParameter) :
      (if p.name = source then { p with name := target } else p) = p.rename source target := by
    rw [TypeParameter.rename, renamed]
    split <;> rfl
  rw [rename, bind_eq_ok]
  simp only [hdeclared]
  exact exists_congr fun referred => and_congr_right fun _ =>
    ⟨fun h => Except.ok.inj h, fun h => congrArg Except.ok h⟩

theorem names_rename (h : s.rename source target = .ok s') :
    s'.names = s.names.map (renamed source target) := by
  obtain ⟨referred, hreferred, rfl⟩ := rename_eq_ok.1 h
  rw [← (sameShape_mapVariables hreferred).names_eq, names, names, List.map_map, List.map_map]
  rfl

theorem places_rename {text : Text} (hs : parse text = .ok s) (htarget : IsName target)
    (h : s.rename source target = .ok s') :
    s'.places = s.places.map (renamed source target) := by
  obtain ⟨referred, hreferred, rfl⟩ := rename_eq_ok.1 h
  obtain ⟨htypeParams, hparams, hreturn, hthrows⟩ := mapVariables_eq_ok.1 hreferred
  have hparse := (parse_eq_ok_iff.1 hs).2.parse_types
  rw [types, List.forall_mem_append, List.forall_mem_flatMap] at hparse
  obtain ⟨hbounds, hrest⟩ := hparse
  rw [places, places, List.map_append, TypeParameter.places_rename htarget htypeParams hbounds]
  congr 1
  exact mentioned_of_renames htarget (List.rel_append hparams (.cons hreturn hthrows)) hrest

/-- Places of different names come to have one exactly if both names are in the signature. -/
theorem sameNames_rename_iff {text : Text} (hs : parse text = .ok s) (htarget : IsName target)
    (hne : source ≠ target) (h : s.rename source target = .ok s') :
    SameNames s.places s'.places ↔ ¬(source ∈ s.places ∧ target ∈ s.places) := by
  rw [places_rename hs htarget h, sameNames_map_iff, renamed_injective_iff hne]

/-- The same for the declared names alone, if they are different. -/
theorem nodup_names_rename_iff (hnodup : s.names.Nodup) (h : s.rename source target = .ok s') :
    s'.names.Nodup ↔ ¬(source ≠ target ∧ source ∈ s.names ∧ target ∈ s.names) := by
  rw [names_rename h, List.nodup_map_iff_inj_on hnodup]
  by_cases hne : source = target
  · subst hne
    simp [renamed_self]
  · rw [renamed_injective_iff hne]
    simp [hne]

/-- The signature of a specialised interface is renamed. -/
theorem rename_of_ofMethod {l : Layout} {p : Primitive} {m : Method} {d : Declaration}
    (h : Declaration.ofMethod l (.specialized p) m = .ok d)
    (hs : m.parsedSignature = .ok (some s)) : ∃ s', d.signature = some s' ∧
      s.rename l.typeVariable Declaration.specializedVariable = .ok s' := by
  obtain ⟨read, hread, hrel⟩ := (Declaration.declares_of_ofMethod h).signature
  rw [hs] at hread
  cases hread
  generalize d.signature = signature at hrel ⊢
  cases hrel with
  | some hadapt => exact ⟨_, rfl, hadapt⟩

/-- A renaming keeps all places of different names apart exactly if its two names are not both in
the signature. In a declaration of a specialised interface two type parameters come to have one
name exactly if the method declares both the library's variable and the name given to it. -/
theorem rename_keeps_apart_iff {text : Text} (hs : parse text = .ok s) :
    (∀ source target s', IsName target → source ≠ target → s.rename source target = .ok s' →
      (SameNames s.places s'.places ↔ ¬(source ∈ s.places ∧ target ∈ s.places))) ∧
    ∀ (l : Layout) (p : Primitive) (m : Method) (d : Declaration),
      Declaration.ofMethod l (.specialized p) m = .ok d → m.parsedSignature = .ok (some s) →
        s.names.Nodup → ∃ s', d.signature = some s' ∧
          (s'.names.Nodup ↔ ¬(l.typeVariable ≠ Declaration.specializedVariable ∧
            l.typeVariable ∈ s.names ∧ Declaration.specializedVariable ∈ s.names)) := by
  constructor
  · intro source target s' htarget hne h
    exact sameNames_rename_iff hs htarget hne h
  · intro l p m d hd hread hnodup
    obtain ⟨s', hsignature, hrename⟩ := rename_of_ofMethod hd hread
    exact ⟨s', hsignature, nodup_names_rename_iff hnodup hrename⟩

/-! Two type parameters, each with a method parameter of its type. -/

def pairSignature (first second : Text) : MethodSignature where
  typeParams := [⟨first, some (.object ['A']), []⟩, ⟨second, some (.object ['A']), []⟩]
  params := [reference first, reference second]
  returnType := .void
  throws := []

theorem places_pairSignature {first second : Text} (hfirst : IsName first)
    (hsecond : IsName second) :
    (pairSignature first second).places = [first, second, first, second] := by
  have hobject : (Descriptor.object ['A']).mentioned = [] := (mentioned_object (by decide)).2
  simp [places, pairSignature, TypeParameter.places, TypeParameter.bounds, hobject, mentioned_void,
    (reference_spec hfirst).2.2, (reference_spec hsecond).2.2]

theorem rename_pairSignature {first second : Text} (hfirst : IsName first)
    (hsecond : IsName second) : (pairSignature first second).rename source target =
      .ok (pairSignature (renamed source target first) (renamed source target second)) := by
  have hobject : (Descriptor.object ['A']).mapVariables (replacing source (reference target)) =
      .ok (.object ['A']) :=
    mapVariables_eq_ok_of_tree scannable_bracketFree (.object (.plain ['A'] (by decide) .nil))
      rfl rfl
  have hparam (name : Text) : TypeParameter.mapVariables (replacing source (reference target))
      ⟨name, some (.object ['A']), []⟩ = .ok ⟨name, some (.object ['A']), []⟩ :=
    TypeParameter.mapVariables_eq_ok.2 ⟨rfl, .cons hobject .nil, .nil⟩
  refine rename_eq_ok.2 ⟨⟨_, [_, _], .void, []⟩, mapVariables_eq_ok.2
    ⟨.cons (hparam first) (.cons (hparam second) .nil), .cons (mapVariables_reference hfirst)
      (.cons (mapVariables_reference hsecond) .nil), mapVariables_void _, .nil⟩, rfl⟩

def pairMethod (text : Text) : Method :=
  ⟨["abstract".toList], ['f'], "(LA;LA;)V".toList, [.signature ⟨text, none⟩]⟩

theorem ofMethod_pairMethod {text : Text} {second : Char} (hsecond : Text.BracketFree [second])
    (hs : (pairMethod text).parsedSignature = .ok (some (pairSignature ['T'] [second]))) :
    ∃ d, Declaration.ofMethod .default (.specialized .int) (pairMethod text) = .ok d := by
  have hT : IsName ['T'] := isName_of_bracketFree (by decide)
  have hrename : (pairSignature ['T'] [second]).rename ['T'] ['U'] = .ok _ :=
    rename_pairSignature hT (isName_of_bracketFree hsecond)
  have hdescriptor : MethodDescriptor.parse "(LA;LA;)V".toList =
      .ok ⟨[.object ['A'], .object ['A']], .void⟩ := by decide +kernel
  exact ⟨_, bind_eq_ok.2 ⟨_, hs, bind_eq_ok.2 ⟨some _, map_eq_ok.2 ⟨_, hrename, rfl⟩,
    bind_eq_ok.2 ⟨_, hdescriptor, rfl⟩⟩⟩⟩

theorem rename_keeps_apart_pair :
    parse "<T:LA;V:LA;>(TT;TV;)V".toList = .ok (pairSignature ['T'] ['V']) ∧
    (pairSignature ['T'] ['V']).rename ['T'] ['U'] = .ok (pairSignature ['U'] ['V']) ∧
    SameNames (pairSignature ['T'] ['V']).places (pairSignature ['U'] ['V']).places ∧
    ∃ d s', Declaration.ofMethod .default (.specialized .int)
        (pairMethod "<T:LA;V:LA;>(TT;TV;)V".toList) = .ok d ∧
      d.signature = some s' ∧ s'.names.Nodup := by
  have hs : parse "<T:LA;V:LA;>(TT;TV;)V".toList = .ok (pairSignature ['T'] ['V']) := by
    decide +kernel
  have hT : IsName ['T'] := isName_of_bracketFree (by decide)
  have hU : IsName ['U'] := isName_of_bracketFree (by decide)
  have hV : IsName ['V'] := isName_of_bracketFree (by decide)
  have hrename : (pairSignature ['T'] ['V']).rename ['T'] ['U'] = .ok (pairSignature ['U'] ['V']) :=
    rename_pairSignature hT hV
  have hread : (pairMethod "<T:LA;V:LA;>(TT;TV;)V".toList).parsedSignature =
      .ok (some (pairSignature ['T'] ['V'])) := by decide +kernel
  obtain ⟨d, hd⟩ := ofMethod_pairMethod (by decide) hread
  obtain ⟨hsame, hdeclaration⟩ := rename_keeps_apart_iff hs
  obtain ⟨s', hsignature, hnodup⟩ := hdeclaration .default .int _ d hd hread (by decide)
  refine ⟨hs, hrename, (hsame _ _ _ hU (by decide) hrename).2 ?_, d, s', hd, hsignature,
    hnodup.2 (by decide)⟩
  rw [places_pairSignature hT hV]
  decide

/-- `T` and `U` become one variable. -/
theorem not_sameNames_rename_pair :
    parse "<T:LA;U:LA;>(TT;TU;)V".toList = .ok (pairSignature ['T'] ['U']) ∧
    (pairSignature ['T'] ['U']).rename ['T'] ['U'] = .ok (pairSignature ['U'] ['U']) ∧
    ¬SameNames (pairSignature ['T'] ['U']).places (pairSignature ['U'] ['U']).places ∧
    (pairSignature ['T'] ['U']).names.Nodup ∧
    ∃ d s', Declaration.ofMethod .default (.specialized .int)
        (pairMethod "<T:LA;U:LA;>(TT;TU;)V".toList) = .ok d ∧
      d.signature = some s' ∧ ¬s'.names.Nodup := by
  have hs : parse "<T:LA;U:LA;>(TT;TU;)V".toList = .ok (pairSignature ['T'] ['U']) := by
    decide +kernel
  have hT : IsName ['T'] := isName_of_bracketFree (by decide)
  have hU : IsName ['U'] := isName_of_bracketFree (by decide)
  have hrename : (pairSignature ['T'] ['U']).rename ['T'] ['U'] = .ok (pairSignature ['U'] ['U']) :=
    rename_pairSignature hT hU
  have hread : (pairMethod "<T:LA;U:LA;>(TT;TU;)V".toList).parsedSignature =
      .ok (some (pairSignature ['T'] ['U'])) := by decide +kernel
  obtain ⟨d, hd⟩ := ofMethod_pairMethod (by decide) hread
  obtain ⟨s', hsignature, hs'⟩ := rename_of_ofMethod hd hread
  have hdefault : Layout.default.typeVariable = ['T'] := by decide
  rw [hdefault] at hs'
  cases hs'.symm.trans hrename
  refine ⟨hs, hrename, ?_, by decide, d, _, hd, hsignature, by decide⟩
  rw [sameNames_rename_iff hs hU (by decide) hrename, places_pairSignature hT hU]
  decide

end MethodSignature

end ErasedBridges
