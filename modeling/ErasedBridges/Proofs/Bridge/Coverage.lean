import ErasedBridges.Proofs.Body.Calls
import ErasedBridges.Proofs.Patch.EmptyVariant

/-!
# The bridges cover the interfaces

Once the empty class is patched, it declares every abstract method of the specialised interfaces,
and every abstract method of the generic interface that has the type variable as a parameter or
as its return type once for each primitive, with the boxed type in these places. None of them is
abstract and each has code.
-/

namespace ErasedBridges

open Text

/-- Exactly one method has this name and this descriptor, and it has code and is not abstract. -/
def ClassFile.DeclaresOnce (c : ClassFile) (name descriptor : Text) : Prop :=
  ∃ m, c.methods.filter (fun m => m.name = name ∧ m.descriptor = descriptor) = [m] ∧
    m.code?.isSome = true ∧ m.isAbstract = false

/-- The descriptor `d'` is `d` with `boxed` exactly where the signature has the type variable. -/
structure MethodSignature.BoxedAt (s : MethodSignature) (name : Text) (boxed : Descriptor)
    (d d' : MethodDescriptor) : Prop where
  arity : s.params.length = d.params.length
  length : d'.params.length = d.params.length
  params : ∀ (i : Nat) (generic erased : Descriptor), s.params[i]? = some generic →
    d.params[i]? = some erased →
      d'.params[i]? = some (if generic.isVariable name then boxed else erased)
  returnType : d'.returnType = if s.returnType.isVariable name then boxed else d.returnType

namespace Bridge

theorem method_code? (b : Bridge) : b.method.code?.isSome = true := rfl

end Bridge

namespace Declaration

theorem abstract_notMem_bridgeFlags (covariant : Bool) (flags : List Text) :
    "abstract".toList ∉ bridgeFlags covariant flags := by
  intro h
  obtain ⟨flag, -, hflag⟩ := List.mem_flatMap.1 h
  split at hflag
  · cases covariant <;> exact absurd hflag (by decide)
  · next hne => exact hne (List.mem_singleton.1 hflag).symm

theorem boxedAt_of_specializedDescriptor {l : Layout} {p : Primitive} {s : MethodSignature}
    {d : Declaration} {descriptor : MethodDescriptor}
    (h : d.specializedDescriptor l p s = .ok descriptor) :
    s.BoxedAt l.typeVariable p.boxedDescriptor d.descriptor descriptor := by
  rw [specializedDescriptor] at h
  split at h
  · next hlength =>
    cases h
    refine ⟨hlength, ?_, ?_, rfl⟩
    · simp [hlength]
    · intro i generic erased hgeneric herased
      rw [List.getElem?_zipWith, hgeneric, herased]
      rfl
  · cases h

theorem classify_eq_noBridge {l : Layout} {d : Declaration} (h : d.classify l = .ok .noBridge) :
    d.origin = .generic ∧ d.hasTopLevel l.typeVariable = false := by
  rw [classify] at h
  split at h
  · next hgeneric => exact hgeneric
  · obtain ⟨pattern, -, he⟩ := map_eq_ok.1 h
    cases he

theorem Declares.signature_of_generic {l : Layout} {m : Method} {d : Declaration}
    {s : MethodSignature} (h : Declares l .generic m d) (hs : m.parsedSignature = .ok (some s)) :
    d.signature = some s := by
  obtain ⟨read, hread, hrel⟩ := h.signature
  obtain rfl : some s = read := Except.ok.inj (hs.symm.trans hread)
  cases hd : d.signature with
  | none =>
    rw [hd] at hrel
    cases hrel
  | some s' =>
    rw [hd] at hrel
    cases hrel with
    | some hadapt => rw [← Except.ok.inj hadapt]

theorem declaresOnce_of_bridge {t : Target} {pattern : Pattern} {variant : Option Primitive}
    {descriptor : MethodDescriptor} {signature : Option MethodSignature} {d : Declaration}
    {b : Bridge} (hb : d.bridge t pattern variant descriptor signature = .ok b)
    {l : Layout} {bridges : List Bridge} {c patched : ClassFile} (hmem : b ∈ bridges)
    (h : c.patchEmpty l (bridges.map Bridge.method) = .ok patched) :
    patched.DeclaresOnce d.name descriptor.text := by
  obtain ⟨body, -, he⟩ := bridge_eq_ok.1 hb
  have honce := ClassFile.filter_methods_patchEmpty h (List.mem_map_of_mem hmem)
  refine ⟨b.method, ?_, b.method_code?, ?_⟩
  · rw [← honce, he]
    simp only [Method.key, Prod.mk.injEq]
    rfl
  · rw [Method.isAbstract, Method.hasFlag, Bool.eq_false_iff, ne_eq, List.elem_iff, he]
    exact abstract_notMem_bridgeFlags _ _

end Declaration

namespace Catalog

variable {t : Target} {classes : List ClassFile} {catalog : Catalog} {bridges : List Bridge}
  {empty patched : ClassFile}

theorem declaresOnce_of_specialized
    (hvariable : t.layout.typeVariable ≠ Declaration.specializedVariable)
    (hbridges : synthesize t catalog = .ok bridges)
    (hpatch : empty.patchEmpty t.layout (bridges.map Bridge.method) = .ok patched)
    {p : Primitive} {m : Method} {d : Declaration} {pattern : Pattern}
    (hd : Declaration.Declares t.layout (.specialized p) m d) (he : ⟨d, pattern⟩ ∈ catalog) :
    patched.DeclaresOnce m.name m.descriptor := by
  obtain ⟨block, hblock, hsub⟩ := exists_of_synthesize hbridges he
  have hplain : ∀ s, d.signature = some s → s.hasTopLevel t.layout.typeVariable = false := by
    intro s hs
    obtain ⟨read, -, hrel⟩ := hd.signature
    rw [hs] at hrel
    cases hrel with
    | some hadapt => exact MethodSignature.not_hasTopLevel_rename hadapt hvariable
  obtain ⟨b, hb, rfl⟩ := (Declaration.synthesize_eq_ok_of_plain hplain).1 hblock
  rw [← hd.name, ← hd.text_descriptor]
  exact Declaration.declaresOnce_of_bridge hb (hsub List.mem_cons_self) hpatch

theorem declaresOnce_of_variable (hbridges : synthesize t catalog = .ok bridges)
    (hpatch : empty.patchEmpty t.layout (bridges.map Bridge.method) = .ok patched)
    {m : Method} {d : Declaration} {pattern : Pattern} {s : MethodSignature}
    (hd : Declaration.Declares t.layout .generic m d) (he : ⟨d, pattern⟩ ∈ catalog)
    (hs : d.signature = some s) (hvar : s.hasTopLevel t.layout.typeVariable = true)
    (p : Primitive) :
    ∃ d', s.BoxedAt t.layout.typeVariable p.boxedDescriptor d.descriptor d' ∧
      patched.DeclaresOnce m.name d'.text := by
  obtain ⟨block, hblock, hsub⟩ := exists_of_synthesize hbridges he
  have hvariants := (Declaration.synthesize_eq_ok_of_variable hs hvar).1 hblock
  obtain ⟨b, hmem, hvariant⟩ := exists_of_mapM hvariants p.mem_all
  obtain ⟨d', hd', signature, -, hb⟩ := Declaration.variantBridge_eq_ok.1 hvariant
  refine ⟨d', Declaration.boxedAt_of_specializedDescriptor hd', ?_⟩
  rw [← hd.name]
  exact Declaration.declaresOnce_of_bridge hb (hsub hmem) hpatch

/-- The patched class declares what the specialised interfaces leave abstract, and what the
generic interface does for each primitive. -/
theorem patched_declares_interfaces
    (hvariable : t.layout.typeVariable ≠ Declaration.specializedVariable)
    (hcatalog : collect t.layout classes = .ok catalog)
    (hbridges : synthesize t catalog = .ok bridges)
    (hpatch : empty.patchEmpty t.layout (bridges.map Bridge.method) = .ok patched) :
    (∀ c ∈ classes, ∀ p, c.origin t.layout = .ok (.specialized p) →
      ∀ m ∈ c.methods, m.isAbstract = true → patched.DeclaresOnce m.name m.descriptor) ∧
    ∀ c ∈ classes, c.origin t.layout = .ok .generic →
      ∀ m ∈ c.methods, m.isAbstract = true → ∀ s, m.parsedSignature = .ok (some s) →
        s.hasTopLevel t.layout.typeVariable = true →
          ∃ d, m.parsedDescriptor = .ok d ∧ ∀ p : Primitive, ∃ d',
            s.BoxedAt t.layout.typeVariable p.boxedDescriptor d d' ∧
              patched.DeclaresOnce m.name d'.text := by
  constructor
  · intro c hc p horigin m hm habstract
    obtain ⟨origin, e?, ho, hentry, hmem⟩ := exists_entryOf_of_collect hcatalog hc hm habstract
    obtain rfl : .specialized p = origin := Except.ok.inj (horigin.symm.trans ho)
    obtain ⟨d, hd, ⟨hclass, -⟩ | ⟨pattern, -, rfl⟩⟩ := entryOf_eq_ok hentry
    · have hgeneric := (Declaration.classify_eq_noBridge hclass).1
      rw [hd.origin] at hgeneric
      cases hgeneric
    · exact declaresOnce_of_specialized hvariable hbridges hpatch hd (hmem _ rfl)
  · intro c hc horigin m hm habstract s hs hvar
    obtain ⟨origin, e?, ho, hentry, hmem⟩ := exists_entryOf_of_collect hcatalog hc hm habstract
    obtain rfl : .generic = origin := Except.ok.inj (horigin.symm.trans ho)
    obtain ⟨d, hd, hcases⟩ := entryOf_eq_ok hentry
    have hsignature := hd.signature_of_generic hs
    rcases hcases with ⟨hclass, -⟩ | ⟨pattern, -, rfl⟩
    · have hnone := (Declaration.classify_eq_noBridge hclass).2
      rw [Declaration.hasTopLevel, hsignature, Option.any_some, hvar] at hnone
      cases hnone
    · exact ⟨d.descriptor, hd.descriptor, fun p =>
        declaresOnce_of_variable hbridges hpatch hd (hmem _ rfl) hsignature hvar p⟩

/-! A library with one method in the generic interface and one in an interface for `int`. -/

def smallLayout : Layout :=
  ⟨[], "O".toList, "N".toList, "S".toList, "I".toList, ⟨"F".toList, "e".toList⟩,
    ⟨"E".toList, "m".toList⟩, "T".toList, "c".toList⟩

def smallInterfaces : List ClassFile :=
  [⟨[.raw ".class O".toList, .method ⟨["abstract".toList], "orElse".toList, "(LA;)LA;".toList,
      [.signature ⟨"(TT;)TT;".toList, none⟩]⟩]⟩,
    ⟨[.raw ".class IntI".toList,
      .method ⟨["abstract".toList], "getAsInt".toList, "()I".toList, []⟩]⟩]

def smallEmptyClass : ClassFile :=
  ⟨[.implements "O".toList, .signature ⟨"LA;LO<TT;>;".toList, none⟩]⟩

def smallSignature : MethodSignature := ⟨[], [⟨"TT;".toList⟩], ⟨"TT;".toList⟩, []⟩

def smallDescriptor : MethodDescriptor := ⟨[⟨"LA;".toList⟩], ⟨"LA;".toList⟩⟩

def smallCatalog : Catalog :=
  [⟨⟨.generic, ["abstract".toList], "orElse".toList, smallDescriptor, some smallSignature, none⟩,
      .orElse⟩,
    ⟨⟨.specialized .int, ["abstract".toList], "getAsInt".toList, ⟨[], ⟨['I']⟩⟩, none, none⟩,
      .throwNotPresent⟩]

def smallBridge (p : Primitive) : Bridge where
  flags := ["synthetic".toList]
  name := "orElse".toList
  descriptor := ⟨[p.boxedDescriptor], p.boxedDescriptor⟩
  body := .of [⟨"this".toList, ⟨"LN;".toList⟩, some ⟨"LN<TT;>;".toList⟩⟩,
    ⟨"value".toList, p.boxedDescriptor, none⟩] [.load .reference 1, .ret (some .reference)]
  line := 7
  throws := []
  signature := some ⟨[], [p.boxedDescriptor], p.boxedDescriptor, []⟩
  quote := none
  variant := some p
  covariant := false

def smallIntBridge : Bridge where
  flags := ["synthetic".toList]
  name := "getAsInt".toList
  descriptor := ⟨[], ⟨['I']⟩⟩
  body := .of [⟨"this".toList, ⟨"LN;".toList⟩, some ⟨"LN<TT;>;".toList⟩⟩]
    [.invokeStatic "E".toList "m".toList Layout.missingValueDescriptor, .throw]
  line := 7
  throws := []
  signature := none
  quote := none
  variant := none
  covariant := false

theorem collect_small : collect smallLayout smallInterfaces = .ok smallCatalog := by
  have hplaced : smallInterfaces.mapM (fun c => (c.origin smallLayout).map (·, c)) =
      .ok (.zip [.generic, .specialized .int] smallInterfaces) := by decide +kernel
  have hsort : sortByOrigin (.zip [.generic, .specialized .int] smallInterfaces) =
      .zip [.generic, .specialized .int] smallInterfaces :=
    List.mergeSort_of_pairwise (by decide)
  refine bind_eq_ok.2 ⟨_, hplaced, bind_eq_ok.2 ⟨smallCatalog.map ([·]), ?_, rfl⟩⟩
  rw [hsort]
  decide +kernel

theorem synthesize_small :
    synthesize ⟨smallLayout, 7⟩ smallCatalog =
      .ok (Primitive.all.map smallBridge ++ [smallIntBridge]) := by
  have hvariable (p : Primitive) := Descriptor.mapVariables_variable "T".toList
    (f := fun other => if other = "T".toList then some p.boxedDescriptor.text else none) (if_pos rfl)
  have hvariant (p : Primitive) : Declaration.variantBridge ⟨smallLayout, 7⟩ .orElse smallSignature
      ⟨.generic, ["abstract".toList], "orElse".toList, smallDescriptor, some smallSignature, none⟩
      p = .ok (smallBridge p) := by
    refine Declaration.variantBridge_eq_ok.2 ⟨⟨[p.boxedDescriptor], p.boxedDescriptor⟩, rfl,
      ⟨[], [p.boxedDescriptor], p.boxedDescriptor, []⟩, ?_, ?_⟩
    · exact MethodSignature.mapVariables_eq_ok.2
        ⟨.nil, .cons (hvariable p) .nil, hvariable p, .nil⟩
    · cases p <;> decide +kernel
  have hvariants : Primitive.all.mapM (Declaration.variantBridge ⟨smallLayout, 7⟩ .orElse
      smallSignature ⟨.generic, ["abstract".toList], "orElse".toList, smallDescriptor,
        some smallSignature, none⟩) = .ok (Primitive.all.map smallBridge) := by
    rw [mapM_eq_ok, List.forall₂_map_right_iff, List.forall₂_same]
    exact fun p _ => hvariant p
  refine bind_eq_ok.2 ⟨[Primitive.all.map smallBridge, [smallIntBridge]], ?_, rfl⟩
  rw [mapM_eq_ok]
  refine .cons ?_ (.cons ?_ .nil)
  · exact (Declaration.synthesize_eq_ok_of_variable rfl (by decide)).2 hvariants
  · decide +kernel

theorem patched_declares_small : ∃ patched,
    smallLayout.typeVariable ≠ Declaration.specializedVariable ∧
    collect smallLayout smallInterfaces = .ok smallCatalog ∧
    synthesize ⟨smallLayout, 7⟩ smallCatalog =
      .ok (Primitive.all.map smallBridge ++ [smallIntBridge]) ∧
    smallEmptyClass.patchEmpty smallLayout
      ((Primitive.all.map smallBridge ++ [smallIntBridge]).map Bridge.method) = .ok patched ∧
    patched.DeclaresOnce "getAsInt".toList "()I".toList ∧
    ∀ p : Primitive, ∃ d', smallSignature.BoxedAt "T".toList p.boxedDescriptor smallDescriptor d' ∧
      patched.DeclaresOnce "orElse".toList d'.text := by
  obtain ⟨patched, hpatch⟩ := exists_ok_of_isOk (x := smallEmptyClass.patchEmpty smallLayout
    ((Primitive.all.map smallBridge ++ [smallIntBridge]).map Bridge.method)) (by decide +kernel)
  have hvariable : smallLayout.typeVariable ≠ Declaration.specializedVariable := by decide
  obtain ⟨hspecialized, hgeneric⟩ := patched_declares_interfaces (t := ⟨smallLayout, 7⟩) hvariable
    collect_small synthesize_small hpatch
  refine ⟨patched, hvariable, collect_small, synthesize_small, hpatch, ?_, ?_⟩
  · exact hspecialized _ (List.mem_cons_of_mem _ List.mem_cons_self) .int (by decide +kernel)
      ⟨["abstract".toList], "getAsInt".toList, "()I".toList, []⟩ (by decide) (by decide)
  · obtain ⟨d, hd, hall⟩ := hgeneric _ List.mem_cons_self (by decide +kernel)
      ⟨["abstract".toList], "orElse".toList, "(LA;)LA;".toList,
        [.signature ⟨"(TT;)TT;".toList, none⟩]⟩ (by decide) (by decide) smallSignature
      (by decide +kernel) (by decide)
    have hread : MethodDescriptor.parse "(LA;)LA;".toList = .ok smallDescriptor := by
      decide +kernel
    obtain rfl : smallDescriptor = d := Except.ok.inj (hread.symm.trans hd)
    exact hall

end Catalog

end ErasedBridges
