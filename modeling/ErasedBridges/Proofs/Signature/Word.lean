import ErasedBridges.Proofs.Descriptor.Word
import ErasedBridges.Proofs.Signature.MethodGrammar
import ErasedBridges.Signature.Variables

/-!
# Signatures over a class of characters

The parts of a signature have the characters of the text that it was parsed from, and they keep to
a class of characters when variables are renamed or replaced by words of that class. So the
signature prints in it.
-/

namespace ErasedBridges

open Text

variable {P : Char → Prop}

/-! ### Type parameters -/

namespace TypeParameter

structure HasWords (P : Char → Prop) (p : TypeParameter) : Prop where
  name : ∀ c ∈ p.name, P c
  classBound : ∀ b ∈ p.classBound, WordOf P b.text
  interfaceBounds : ∀ b ∈ p.interfaceBounds, WordOf P b.text

theorem HasWords.forall_mem_text (hP : ∀ c, IsInk c → P c) {p : TypeParameter}
    (h : p.HasWords P) : ∀ c ∈ p.text, P c := by
  have hclass : ∀ c ∈ (p.classBound.map Descriptor.text).getD [], P c := by
    cases hb : p.classBound with
    | none => exact List.forall_mem_nil _
    | some b => exact (h.classBound b hb).2
  have hinterfaces : ∀ c ∈ p.interfaceBounds.flatMap fun b => ':' :: b.text, P c :=
    List.forall_mem_flatMap.2 fun b hb =>
      List.forall_mem_cons.2 ⟨hP _ rfl, (h.interfaceBounds b hb).2⟩
  refine List.forall_mem_append.2 ⟨h.name, List.forall_mem_cons.2 ⟨hP _ rfl, ?_⟩⟩
  exact List.forall_mem_append.2 ⟨hclass, hinterfaces⟩

/-- A token has characters, so its bounds are words. -/
theorem WellFormed.hasWords {p : TypeParameter} (h : p.WellFormed) (hp : ∀ c ∈ p.text, P c) :
    p.HasWords P := by
  obtain ⟨hname, hbounds⟩ := List.forall_mem_append.1 hp
  obtain ⟨hclass, hinterfaces⟩ :=
    List.forall_mem_append.1 (List.forall_mem_cons.1 hbounds).2
  refine ⟨hname, fun b hb => ⟨(h.classBound b hb).ne_nil, ?_⟩,
    fun b hb => ⟨(h.interfaceBounds b hb).ne_nil, fun c hc => hinterfaces c ?_⟩⟩
  · rw [Option.mem_def.1 hb] at hclass
    exact hclass
  · exact List.mem_flatMap.2 ⟨b, hb, List.mem_cons_of_mem _ hc⟩

theorem WellFormedList.hasWords {ps : List TypeParameter} (h : WellFormedList ps)
    (hps : ∀ c ∈ typeParametersText ps, P c) : ∀ p ∈ ps, p.HasWords P := by
  intro p hp
  refine (h.wellFormed p hp).hasWords fun c hc => hps c ?_
  rw [typeParametersText, if_neg (by simpa using List.ne_nil_of_mem hp)]
  exact List.mem_cons_of_mem _ (List.mem_append_left _ (List.mem_flatMap.2 ⟨p, hp, hc⟩))

theorem hasWords_of_mapVariables (hP : ∀ c, IsInk c → P c) {f : Text → Option Text}
    (hf : ∀ name text, f name = some text → WordOf P text) {p p' : TypeParameter}
    (hp : p.HasWords P) (h : p.mapVariables f = .ok p') : p'.HasWords P := by
  obtain ⟨name, classBound, interfaceBounds⟩ := p
  cases classBound with
  | none =>
    obtain ⟨classBound', hclass, h⟩ := bind_eq_ok.1 h
    obtain ⟨bounds, hbounds, h⟩ := bind_eq_ok.1 h
    cases hclass
    cases h
    exact ⟨hp.name, nofun, Descriptor.wordOf_of_mapM_mapVariables hP hf hp.interfaceBounds hbounds⟩
  | some b =>
    obtain ⟨classBound', hclass, h⟩ := bind_eq_ok.1 h
    obtain ⟨bounds, hbounds, h⟩ := bind_eq_ok.1 h
    obtain ⟨b', hb', rfl⟩ := map_eq_ok.1 hclass
    cases h
    refine ⟨hp.name, ?_,
      Descriptor.wordOf_of_mapM_mapVariables hP hf hp.interfaceBounds hbounds⟩
    rintro _ ⟨⟩
    exact Descriptor.wordOf_of_mapVariables hP hf (hp.classBound b rfl) hb'

end TypeParameter

theorem forall_mem_typeParametersText (hP : ∀ c, IsInk c → P c) {ps : List TypeParameter}
    (h : ∀ p ∈ ps, p.HasWords P) : ∀ c ∈ typeParametersText ps, P c := by
  rw [typeParametersText]
  split
  · exact List.forall_mem_nil _
  · refine List.forall_mem_cons.2 ⟨hP _ rfl, List.forall_mem_append.2 ⟨?_, ?_⟩⟩
    · exact List.forall_mem_flatMap.2 fun p hp => (h p hp).forall_mem_text hP
    · exact List.forall_mem_singleton.2 (hP _ rfl)

/-! ### Method signatures -/

namespace MethodSignature

structure HasWords (P : Char → Prop) (s : MethodSignature) : Prop where
  typeParams : ∀ p ∈ s.typeParams, p.HasWords P
  params : ∀ d ∈ s.params, WordOf P d.text
  returnType : WordOf P s.returnType.text
  throws : ∀ d ∈ s.throws, WordOf P d.text

theorem HasWords.forall_mem_text (hP : ∀ c, IsInk c → P c) {s : MethodSignature}
    (h : s.HasWords P) : ∀ c ∈ s.text, P c := by
  have hthrows : ∀ c ∈ throwsText s.throws, P c :=
    List.forall_mem_flatMap.2 fun t ht => List.forall_mem_cons.2 ⟨hP _ rfl, (h.throws t ht).2⟩
  refine List.forall_mem_append.2 ⟨forall_mem_typeParametersText hP h.typeParams,
    List.forall_mem_cons.2 ⟨hP _ rfl, List.forall_mem_append.2 ⟨?_, ?_⟩⟩⟩
  · exact Descriptor.forall_mem_textOf h.params
  · exact List.forall_mem_cons.2 ⟨hP _ rfl, List.forall_mem_append.2 ⟨h.returnType.2, hthrows⟩⟩

theorem head?_text (s : MethodSignature) :
    s.text.head? = some '<' ∨ s.text.head? = some '(' := by
  rw [text, typeParametersText]
  split
  · exact Or.inr rfl
  · exact Or.inl rfl

theorem hasWords_of_parse {text : Text} {s : MethodSignature} (htext : ∀ c ∈ text, P c)
    (h : parse text = .ok s) : s.HasWords P := by
  obtain ⟨rfl, hwellFormed⟩ := parse_eq_ok_iff.1 h
  obtain ⟨htypeParams, hrest⟩ := List.forall_mem_append.1 htext
  obtain ⟨hparams, hrest⟩ := List.forall_mem_append.1 (List.forall_mem_cons.1 hrest).2
  obtain ⟨hreturn, hthrows⟩ := List.forall_mem_append.1 (List.forall_mem_cons.1 hrest).2
  refine ⟨hwellFormed.typeParams.hasWords htypeParams, fun d hd => ?_, ?_, fun d hd => ?_⟩
  · exact ⟨(hwellFormed.params d hd).ne_nil, List.forall_mem_flatMap.1 hparams d hd⟩
  · exact Descriptor.wordOf_of_parse hreturn hwellFormed.returnType
  · exact ⟨(hwellFormed.throws d hd).ne_nil,
      (List.forall_mem_cons.1 (List.forall_mem_flatMap.1 hthrows d hd)).2⟩

section

variable (hP : ∀ c, IsInk c → P c)

include hP

theorem hasWords_of_mapVariables {f : Text → Option Text}
    (hf : ∀ name text, f name = some text → WordOf P text) {s s' : MethodSignature}
    (hs : s.HasWords P) (h : s.mapVariables f = .ok s') : s'.HasWords P := by
  obtain ⟨typeParams, htps, h⟩ := bind_eq_ok.1 h
  obtain ⟨params, hparams, h⟩ := bind_eq_ok.1 h
  obtain ⟨returnType, hreturn, h⟩ := bind_eq_ok.1 h
  obtain ⟨throws, hthrows, h⟩ := bind_eq_ok.1 h
  cases h
  refine ⟨?_, Descriptor.wordOf_of_mapM_mapVariables hP hf hs.params hparams,
    Descriptor.wordOf_of_mapVariables hP hf hs.returnType hreturn,
    Descriptor.wordOf_of_mapM_mapVariables hP hf hs.throws hthrows⟩
  intro p' hp'
  obtain ⟨p, hp, hmap⟩ := exists_of_mem_mapM htps hp'
  exact TypeParameter.hasWords_of_mapVariables hP hf (hs.typeParams p hp) hmap

theorem HasWords.substitute {s s' : MethodSignature} {name : Text} {replacement : Descriptor}
    (hs : s.HasWords P) (hreplacement : WordOf P replacement.text)
    (h : s.substitute name replacement = .ok s') : s'.HasWords P := by
  refine hasWords_of_mapVariables hP (fun other text hother => ?_) hs h
  split at hother
  · cases hother
    exact hreplacement
  · cases hother

theorem HasWords.rename {s s' : MethodSignature} {source target : Text} (hs : s.HasWords P)
    (htarget : ∀ c ∈ target, P c) (h : s.rename source target = .ok s') : s'.HasWords P := by
  obtain ⟨renamed, hmap, h⟩ := bind_eq_ok.1 h
  cases h
  have hrenamed : renamed.HasWords P := by
    refine hasWords_of_mapVariables hP (fun other text hother => ?_) hs hmap
    split at hother
    · cases hother
      refine ⟨List.cons_ne_nil _ _, List.forall_mem_cons.2 ⟨hP _ rfl, ?_⟩⟩
      exact List.forall_mem_append.2 ⟨htarget, List.forall_mem_singleton.2 (hP _ rfl)⟩
    · cases hother
  refine ⟨?_, hrenamed.params, hrenamed.returnType, hrenamed.throws⟩
  intro p' hp'
  obtain ⟨p, hp, rfl⟩ := List.mem_map.1 hp'
  have hwords := hrenamed.typeParams p hp
  split
  · exact ⟨htarget, hwords.classBound, hwords.interfaceBounds⟩
  · exact hwords

end

end MethodSignature

/-! ### Class signatures -/

namespace ClassSignature

structure HasWords (P : Char → Prop) (s : ClassSignature) : Prop where
  typeParams : ∀ p ∈ s.typeParams, p.HasWords P
  supertypes : ∀ d ∈ s.supertypes, WordOf P d.text

theorem HasWords.forall_mem_text (hP : ∀ c, IsInk c → P c) {s : ClassSignature}
    (h : s.HasWords P) : ∀ c ∈ s.text, P c :=
  List.forall_mem_append.2 ⟨forall_mem_typeParametersText hP h.typeParams,
    Descriptor.forall_mem_textOf h.supertypes⟩

theorem hasWords_of_parse {text : Text} {s : ClassSignature} (htext : ∀ c ∈ text, P c)
    (h : parse text = .ok s) : s.HasWords P := by
  obtain ⟨rfl, hwellFormed⟩ := parse_eq_ok_iff.1 h
  obtain ⟨htypeParams, hsupertypes⟩ := List.forall_mem_append.1 htext
  refine ⟨hwellFormed.typeParams.hasWords htypeParams, fun d hd => ?_⟩
  exact ⟨(hwellFormed.supertypes d hd).ne_nil, List.forall_mem_flatMap.1 hsupertypes d hd⟩

/-- A class signature begins with a bracket or with its first supertype. -/
theorem head?_text {s : ClassSignature} {d : Descriptor} {ds : List Descriptor}
    (hs : s.supertypes = d :: ds) (hd : d.text ≠ []) :
    s.text.head? = some '<' ∨ s.text.head? = d.text.head? := by
  rw [text, typeParametersText, hs, Descriptor.textOf_cons]
  split
  · rw [List.nil_append, List.head?_append_of_ne_nil _ hd]
    exact Or.inr rfl
  · exact Or.inl rfl

end ClassSignature

end ErasedBridges
