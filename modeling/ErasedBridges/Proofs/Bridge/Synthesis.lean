import ErasedBridges.Bridge.Catalog
import ErasedBridges.Proofs.Descriptor.Text

/-!
# From declarations to bridges

What a successful reading, classification or synthesis says about its parts: which declaration an
abstract method has, which declarations are in a catalog, and which bridges come from each.
-/

namespace ErasedBridges

theorem PatchError.ofRead_eq_ok {α : Type} {x : Except ReadError α} {a : α} :
    PatchError.ofRead x = .ok a ↔ x = .ok a := by
  cases x with
  | error e => exact ⟨nofun, nofun⟩
  | ok b => rw [ofRead, Except.ok.injEq, Except.ok.injEq]

/-! ### Signatures -/

namespace MethodSignature

theorem mapVariables_eq_ok {f : Text → Option Text} {s s' : MethodSignature} :
    s.mapVariables f = .ok s' ↔
      List.Forall₂ (fun p p' => TypeParameter.mapVariables f p = .ok p') s.typeParams s'.typeParams ∧
      List.Forall₂ (fun d d' => Descriptor.mapVariables f d = .ok d') s.params s'.params ∧
      s.returnType.mapVariables f = .ok s'.returnType ∧
      List.Forall₂ (fun d d' => Descriptor.mapVariables f d = .ok d') s.throws s'.throws := by
  obtain ⟨typeParams, params, returnType, throws⟩ := s'
  simp only [mapVariables, bind_eq_ok, mapM_eq_ok]
  constructor
  · rintro ⟨tps, htps, ps, hps, r, hr, ts, hts, h⟩
    cases h
    exact ⟨htps, hps, hr, hts⟩
  · rintro ⟨htps, hps, hr, hts⟩
    exact ⟨_, htps, _, hps, _, hr, _, hts, rfl⟩

theorem hasTopLevel_eq_true {name : Text} {s : MethodSignature} :
    s.hasTopLevel name = true ↔
      ∃ d ∈ s.returnType :: s.params, Descriptor.isVariable name d = true := by
  rw [hasTopLevel, Bool.or_eq_true, List.any_eq_true]
  simp

/-- Renaming leaves no parameter and no return type of the old name. -/
theorem not_hasTopLevel_rename {s s' : MethodSignature} {source target : Text}
    (h : s.rename source target = .ok s') (hne : source ≠ target) :
    s'.hasTopLevel source = false := by
  obtain ⟨renamed, hmap, hs'⟩ := bind_eq_ok.1 h
  cases hs'
  obtain ⟨-, hparams, hreturn, -⟩ := mapVariables_eq_ok.1 hmap
  rw [← Bool.not_eq_true, hasTopLevel_eq_true]
  rintro ⟨d', hd', hvar⟩
  obtain ⟨d, hd⟩ : ∃ d, Descriptor.mapVariables
      (fun other => if other = source then some ('T' :: (target ++ [';'])) else none) d = .ok d' := by
    rcases List.mem_cons.1 hd' with rfl | hd'
    · exact ⟨_, hreturn⟩
    · obtain ⟨d, -, hd⟩ := exists_of_mem_mapM (mapM_eq_ok.2 hparams) hd'
      exact ⟨d, hd⟩
  obtain ⟨other, hother, htext⟩ := Descriptor.isVariable_mapVariables hd hvar
  rw [Descriptor.isVariable_eq_true] at hother hvar
  rw [hvar] at htext
  by_cases ho : other = source
  · rw [if_pos ho] at htext
    simp at htext
    exact hne htext.symm
  · rw [if_neg ho, Option.getD_none, hother] at htext
    simp at htext
    exact ho htext

end MethodSignature

/-! ### Declarations -/

namespace Declaration

/-- What the declaration `d` of the method `m` of an interface keeps of it. -/
structure Declares (l : Layout) (interface : Origin) (m : Method) (d : Declaration) : Prop where
  origin : d.origin = interface
  flags : d.flags = m.flags
  name : d.name = m.name
  descriptor : m.parsedDescriptor = .ok d.descriptor
  signature : ∃ read, m.parsedSignature = .ok read ∧
    Option.Rel (fun s s' => adaptSignature l interface s = .ok s') read d.signature

theorem declares_of_ofMethod {l : Layout} {origin : Origin} {m : Method} {d : Declaration}
    (h : ofMethod l origin m = .ok d) : Declares l origin m d := by
  obtain ⟨read, hread, h⟩ := bind_eq_ok.1 h
  cases read with
  | none =>
    obtain ⟨signature, hsignature, h⟩ := bind_eq_ok.1 h
    obtain ⟨descriptor, hdescriptor, hd⟩ := bind_eq_ok.1 h
    cases hsignature
    cases hd
    exact ⟨rfl, rfl, rfl, hdescriptor, none, hread, .none⟩
  | some s =>
    obtain ⟨signature, hsignature, h⟩ := bind_eq_ok.1 h
    obtain ⟨descriptor, hdescriptor, hd⟩ := bind_eq_ok.1 h
    obtain ⟨s', hs', rfl⟩ := map_eq_ok.1 hsignature
    cases hd
    exact ⟨rfl, rfl, rfl, hdescriptor, some s, hread, .some hs'⟩

theorem Declares.text_descriptor {l : Layout} {origin : Origin} {m : Method} {d : Declaration}
    (h : Declares l origin m d) : d.descriptor.text = m.descriptor :=
  MethodDescriptor.text_of_parse h.descriptor

end Declaration

namespace Catalog

theorem entryOf_eq_ok_iff {l : Layout} {o : Origin} {m : Method} {e? : Option CatalogEntry} :
    entryOf l o m = .ok e? ↔ ∃ d, Declaration.ofMethod l o m = .ok d ∧
      ((d.classify l = .ok .noBridge ∧ e? = none) ∨
        ∃ p, d.classify l = .ok (.bridge p) ∧ e? = some ⟨d, p⟩) := by
  rw [entryOf, bind_eq_ok]
  simp only [PatchError.ofRead_eq_ok, bind_eq_ok]
  refine exists_congr fun d => and_congr_right fun _ => ?_
  constructor
  · rintro ⟨classification, hclass, he⟩
    cases classification with
    | noBridge =>
      cases he
      exact Or.inl ⟨hclass, rfl⟩
    | bridge p =>
      cases he
      exact Or.inr ⟨p, hclass, rfl⟩
  · rintro (⟨hclass, rfl⟩ | ⟨p, hclass, rfl⟩)
    · exact ⟨.noBridge, hclass, rfl⟩
    · exact ⟨.bridge p, hclass, rfl⟩

theorem entryOf_eq_ok {l : Layout} {origin : Origin} {m : Method} {e? : Option CatalogEntry}
    (h : entryOf l origin m = .ok e?) :
    ∃ d, Declaration.Declares l origin m d ∧
      ((d.classify l = .ok .noBridge ∧ e? = none) ∨
        ∃ pattern, d.classify l = .ok (.bridge pattern) ∧ e? = some ⟨d, pattern⟩) := by
  obtain ⟨d, hd, hcases⟩ := entryOf_eq_ok_iff.1 h
  exact ⟨d, Declaration.declares_of_ofMethod hd, hcases⟩

/-- Every abstract method of every interface was looked at, and its entry is in the catalog. -/
theorem exists_entryOf_of_collect {l : Layout} {classes : List ClassFile} {catalog : Catalog}
    (h : collect l classes = .ok catalog) {c : ClassFile} (hc : c ∈ classes) {m : Method}
    (hm : m ∈ c.methods) (habstract : m.isAbstract = true) :
    ∃ origin e?, c.origin l = .ok origin ∧ entryOf l origin m = .ok e? ∧
      ∀ e, e? = some e → e ∈ catalog := by
  obtain ⟨placed, hplaced, h⟩ := bind_eq_ok.1 h
  obtain ⟨blocks, hblocks, h⟩ := bind_eq_ok.1 h
  cases h
  obtain ⟨⟨origin, c'⟩, hmem, hpair⟩ := exists_of_mapM hplaced hc
  obtain ⟨origin', horigin, he⟩ := map_eq_ok.1 hpair
  cases he
  have hsorted : (origin, c) ∈ sortByOrigin placed := List.mem_mergeSort.2 hmem
  obtain ⟨block, hblock, hof⟩ := exists_of_mapM hblocks hsorted
  obtain ⟨entries, hentries, hend⟩ := bind_eq_ok.1 hof
  cases hend
  obtain ⟨e?, he?, hentry⟩ := exists_of_mapM hentries (List.mem_filter.2 ⟨hm, habstract⟩)
  refine ⟨origin, e?, horigin, hentry, ?_⟩
  rintro e rfl
  exact List.mem_flatten.2 ⟨_, hblock, List.mem_filterMap.2 ⟨some e, he?, rfl⟩⟩

/-- Every entry of a catalog is that of an abstract method of one of the interfaces. -/
theorem exists_of_mem_collect {l : Layout} {classes : List ClassFile} {catalog : Catalog}
    (h : collect l classes = .ok catalog) {e : CatalogEntry} (he : e ∈ catalog) :
    ∃ c ∈ classes, ∃ origin, c.origin l = .ok origin ∧ ∃ m ∈ c.methods, m.isAbstract = true ∧
      entryOf l origin m = .ok (some e) := by
  obtain ⟨placed, hplaced, h⟩ := bind_eq_ok.1 h
  obtain ⟨blocks, hblocks, h⟩ := bind_eq_ok.1 h
  cases h
  obtain ⟨block, hblock, he⟩ := List.mem_flatten.1 he
  obtain ⟨⟨origin, c⟩, hsorted, hof⟩ := exists_of_mem_mapM hblocks hblock
  obtain ⟨entries, hentries, hend⟩ := bind_eq_ok.1 hof
  cases hend
  obtain ⟨e?, he?, hid⟩ := List.mem_filterMap.1 he
  obtain ⟨m, hm, hentry⟩ := exists_of_mem_mapM hentries he?
  obtain ⟨c', hc', hpair⟩ := exists_of_mem_mapM hplaced (List.mem_mergeSort.1 hsorted)
  obtain ⟨origin', horigin, heq⟩ := map_eq_ok.1 hpair
  cases heq
  cases hid
  obtain ⟨hmem, habstract⟩ := List.mem_filter.1 hm
  exact ⟨c, hc', origin, horigin, m, hmem, habstract, hentry⟩

end Catalog

/-! ### Bridges -/

namespace Declaration

/-- What holds of the boxed type and of the types of a declaration holds of the types of its
specialised descriptor. -/
theorem forall_specializedDescriptor {P : Descriptor → Prop} {l : Layout} {p : Primitive}
    {s : MethodSignature} {d : Declaration} {descriptor : MethodDescriptor}
    (h : d.specializedDescriptor l p s = .ok descriptor) (hboxed : P p.boxedDescriptor) :
    ((∀ type ∈ d.descriptor.params, P type) → ∀ type ∈ descriptor.params, P type) ∧
      (P d.descriptor.returnType → P descriptor.returnType) := by
  have hpick {generic erased : Descriptor} (herased : P erased) :
      P (specializedType l.typeVariable p.boxedDescriptor generic erased) := by
    rw [specializedType]
    split
    · exact hboxed
    · exact herased
  rw [specializedDescriptor] at h
  split at h
  · cases h
    refine ⟨fun hparams type htype => ?_, hpick⟩
    rw [← List.map_uncurry_zip_eq_zipWith] at htype
    obtain ⟨⟨generic, erased⟩, hpair, rfl⟩ := List.mem_map.1 htype
    exact hpick (hparams erased (List.of_mem_zip hpair).2)
  · cases h

theorem bridge_eq_ok {t : Target} {pattern : Pattern} {variant : Option Primitive}
    {descriptor : MethodDescriptor} {signature : Option MethodSignature} {d : Declaration}
    {b : Bridge} :
    d.bridge t pattern variant descriptor signature = .ok b ↔
      ∃ body, d.body t.layout pattern descriptor signature = .ok body ∧
        b = ⟨bridgeFlags (d.isCovariant t.layout) d.flags, d.name, descriptor, body, t.line,
          pattern.throws, signature, d.quote, variant, d.isCovariant t.layout⟩ := by
  rw [bridge, bind_eq_ok]
  exact exists_congr fun body => and_congr_right fun _ =>
    ⟨fun h => (Except.ok.inj h).symm, fun h => congrArg Except.ok h.symm⟩

theorem variantBridge_eq_ok {t : Target} {pattern : Pattern} {s : MethodSignature}
    {d : Declaration} {p : Primitive} {b : Bridge} :
    d.variantBridge t pattern s p = .ok b ↔
      ∃ descriptor, d.specializedDescriptor t.layout p s = .ok descriptor ∧
        ∃ signature, s.substitute t.layout.typeVariable p.boxedDescriptor = .ok signature ∧
          d.bridge t pattern (some p) descriptor (some signature) = .ok b := by
  simp only [variantBridge, bind_eq_ok, PatchError.ofRead_eq_ok]

theorem synthesize_eq_ok_of_variable {t : Target} {pattern : Pattern} {s : MethodSignature}
    {d : Declaration} {block : List Bridge} (hs : d.signature = some s)
    (hvar : s.hasTopLevel t.layout.typeVariable = true) :
    d.synthesize t pattern = .ok block ↔
      Primitive.all.mapM (d.variantBridge t pattern s) = .ok block := by
  rw [synthesize, hs, Option.filter_some_pos hvar]

theorem synthesize_eq_ok_of_plain {t : Target} {pattern : Pattern} {d : Declaration}
    {block : List Bridge}
    (hvar : ∀ s, d.signature = some s → s.hasTopLevel t.layout.typeVariable = false) :
    d.synthesize t pattern = .ok block ↔
      ∃ b, d.bridge t pattern none d.descriptor d.signature = .ok b ∧ block = [b] := by
  have hnone : d.signature.filter (·.hasTopLevel t.layout.typeVariable) = none := by
    cases hs : d.signature with
    | none => rfl
    | some s => rw [Option.filter_some_neg (by simp [hvar s hs])]
  rw [synthesize, hnone, map_eq_ok]
  exact exists_congr fun b => and_congr_right fun _ => eq_comm

/-- A bridge of a declaration is for a variant, with the specialised descriptor, or it is for the
declaration as it stands. -/
theorem exists_bridge_of_mem_synthesize {t : Target} {pattern : Pattern} {d : Declaration}
    {block : List Bridge} (h : d.synthesize t pattern = .ok block) {b : Bridge} (hb : b ∈ block) :
    (∃ s p descriptor signature, d.signature = some s ∧
        d.specializedDescriptor t.layout p s = .ok descriptor ∧
        s.substitute t.layout.typeVariable p.boxedDescriptor = .ok signature ∧
        d.bridge t pattern (some p) descriptor (some signature) = .ok b) ∨
      d.bridge t pattern none d.descriptor d.signature = .ok b := by
  by_cases hvar : ∃ s, d.signature = some s ∧ s.hasTopLevel t.layout.typeVariable = true
  · obtain ⟨s, hs, hvar⟩ := hvar
    rw [synthesize_eq_ok_of_variable hs hvar] at h
    obtain ⟨p, -, hvariant⟩ := exists_of_mem_mapM h hb
    obtain ⟨descriptor, hdescriptor, signature, hsignature, hbridge⟩ :=
      variantBridge_eq_ok.1 hvariant
    exact Or.inl ⟨s, p, descriptor, signature, hs, hdescriptor, hsignature, hbridge⟩
  · have hplain : ∀ s, d.signature = some s → s.hasTopLevel t.layout.typeVariable = false :=
      fun s hs => Bool.eq_false_iff.2 fun hs' => hvar ⟨s, hs, hs'⟩
    obtain ⟨b', hbridge, rfl⟩ := (synthesize_eq_ok_of_plain hplain).1 h
    obtain rfl := List.mem_singleton.1 hb
    exact Or.inr hbridge

end Declaration

namespace Catalog

theorem exists_of_synthesize {t : Target} {catalog : Catalog} {bridges : List Bridge}
    (h : synthesize t catalog = .ok bridges) {e : CatalogEntry} (he : e ∈ catalog) :
    ∃ block, e.declaration.synthesize t e.pattern = .ok block ∧ block ⊆ bridges := by
  obtain ⟨blocks, hblocks, hend⟩ := bind_eq_ok.1 h
  cases hend
  obtain ⟨block, hblock, hof⟩ := exists_of_mapM hblocks he
  exact ⟨block, hof, fun b hb => List.mem_flatten.2 ⟨block, hblock, hb⟩⟩

theorem exists_of_mem_synthesize {t : Target} {catalog : Catalog} {bridges : List Bridge}
    (h : synthesize t catalog = .ok bridges) {b : Bridge} (hb : b ∈ bridges) :
    ∃ e ∈ catalog, ∃ block, e.declaration.synthesize t e.pattern = .ok block ∧ b ∈ block := by
  obtain ⟨blocks, hblocks, hend⟩ := bind_eq_ok.1 h
  cases hend
  obtain ⟨block, hblock, hmem⟩ := List.mem_flatten.1 hb
  obtain ⟨e, he, hof⟩ := exists_of_mem_mapM hblocks hblock
  exact ⟨e, he, block, hof, hmem⟩

end Catalog

end ErasedBridges
