import ErasedBridges.Proofs.Bridge.Coverage

/-!
# One bridge or eight

The bridges of a catalog come in blocks, one block for each entry and in the order of the entries.
A declaration of the generic interface is expanded into one bridge for each variant. So is one of
a specialised interface if its signature still has the library's type variable after renaming,
which it can have only if the library's variable is called as the variable is renamed to.
-/

namespace ErasedBridges

namespace CatalogEntry

def isGeneric (e : CatalogEntry) : Bool := e.declaration.origin == .generic

/-- Whether the signature has the library's type variable as a parameter or as the return type. -/
def hasVariable (l : Layout) (e : CatalogEntry) : Bool := e.declaration.hasTopLevel l.typeVariable

theorem isGeneric_eq_false {e : CatalogEntry} {p : Primitive}
    (h : e.declaration.origin = .specialized p) : e.isGeneric = false := by
  rw [isGeneric, h]
  rfl

end CatalogEntry

/-- The bridges that a declaration of its origin asks for: one for each variant in their order, or
one with the declaration's own descriptor. -/
inductive Declaration.Expands (d : Declaration) : List Bridge → Prop where
  | generic {block : List Bridge} (origin : d.origin = .generic)
      (variants : block.map (·.variant) = Primitive.all.map some) : Expands d block
  | specialized {p : Primitive} {b : Bridge} (origin : d.origin = .specialized p)
      (variant : b.variant = none) (descriptor : b.descriptor = d.descriptor) : Expands d [b]

/-- The bridges are what each entry of the catalog yields, in the order of the entries, and only
generic entries are expanded. -/
structure Catalog.ExpandsGeneric (t : Target) (catalog : Catalog) (bridges : List Bridge) :
    Prop where
  blocks : ∃ blocks, List.Forall₂ (fun e block =>
      e.declaration.synthesize t e.pattern = .ok block ∧ e.declaration.Expands block)
    catalog blocks ∧ bridges = blocks.flatten
  length : bridges.length =
    8 * catalog.countP (·.isGeneric) + catalog.countP fun e => !e.isGeneric

/-! ### Blocks -/

namespace Declaration

variable {t : Target} {pattern : Pattern} {d : Declaration} {block : List Bridge}

theorem exists_signature_of_hasTopLevel {name : Text} (h : d.hasTopLevel name = true) :
    ∃ s, d.signature = some s ∧ s.hasTopLevel name = true := by
  rw [hasTopLevel, Option.any_eq_true] at h
  exact h

theorem forall_signature_of_hasTopLevel {name : Text} (h : d.hasTopLevel name = false) :
    ∀ s, d.signature = some s → s.hasTopLevel name = false := by
  intro s hs
  rw [hasTopLevel, hs, Option.any_some] at h
  exact h

theorem variant_of_variantBridge {s : MethodSignature} {p : Primitive} {b : Bridge}
    (h : d.variantBridge t pattern s p = .ok b) : b.variant = some p := by
  obtain ⟨descriptor, -, signature, -, hbridge⟩ := variantBridge_eq_ok.1 h
  obtain ⟨body, -, rfl⟩ := bridge_eq_ok.1 hbridge
  rfl

theorem variants_of_synthesize (hvar : d.hasTopLevel t.layout.typeVariable = true)
    (h : d.synthesize t pattern = .ok block) :
    block.map (·.variant) = Primitive.all.map some := by
  obtain ⟨s, hs, hs'⟩ := exists_signature_of_hasTopLevel hvar
  have hvariants := mapM_eq_ok.1 ((synthesize_eq_ok_of_variable hs hs').1 h)
  have hsame : List.Forall₂ (fun v p => v = some p) (block.map (·.variant)) Primitive.all := by
    rw [List.forall₂_map_left_iff]
    exact (hvariants.imp fun p b hb => variant_of_variantBridge hb).flip
  rw [← List.forall₂_eq_eq_eq, List.forall₂_map_right_iff]
  exact hsame

theorem eq_singleton_of_synthesize (hplain : d.hasTopLevel t.layout.typeVariable = false)
    (h : d.synthesize t pattern = .ok block) :
    ∃ b, block = [b] ∧ b.variant = none ∧ b.descriptor = d.descriptor := by
  obtain ⟨b, hbridge, rfl⟩ :=
    (synthesize_eq_ok_of_plain (forall_signature_of_hasTopLevel hplain)).1 h
  obtain ⟨body, -, rfl⟩ := bridge_eq_ok.1 hbridge
  exact ⟨_, rfl, rfl, rfl⟩

end Declaration

/-- If `q` holds wherever `p` does and no more often, it holds nowhere else. -/
theorem forall_of_countP_eq {α : Type} {p q : α → Bool} {as : List α}
    (hpq : ∀ a ∈ as, p a = true → q a = true) (h : as.countP q = as.countP p) :
    ∀ a ∈ as, q a = true → p a = true := by
  have hp : (as.filter p).countP q = as.countP p := by
    rw [List.countP_eq_length_filter (p := p), List.countP_eq_length]
    exact fun a ha => hpq a (List.mem_of_mem_filter ha) (List.mem_filter.1 ha).2
  have hsplit := List.countP_eq_countP_filter_add as q p
  have hnone : (as.filter (!p ·)).countP q = 0 := by omega
  intro a ha hq
  by_contra hnot
  exact List.countP_eq_zero.1 hnone a (List.mem_filter.2 ⟨ha, by simpa using hnot⟩) hq

namespace Catalog

variable {t : Target} {classes : List ClassFile} {catalog : Catalog} {bridges : List Bridge}

theorem synthesize_eq_ok_iff :
    synthesize t catalog = .ok bridges ↔ ∃ blocks,
      List.Forall₂ (fun e block => e.declaration.synthesize t e.pattern = .ok block) catalog blocks ∧
        bridges = blocks.flatten := by
  rw [synthesize, bind_eq_ok]
  simp only [mapM_eq_ok]
  exact exists_congr fun blocks => and_congr_right fun _ =>
    ⟨fun h => (Except.ok.inj h).symm, fun h => congrArg Except.ok h.symm⟩

/-- What decides how many bridges there are is the signature and not the origin. -/
theorem length_synthesize (h : synthesize t catalog = .ok bridges) :
    bridges.length = 8 * catalog.countP (·.hasVariable t.layout) +
      catalog.countP fun e => !e.hasVariable t.layout := by
  obtain ⟨blocks, hblocks, rfl⟩ := synthesize_eq_ok_iff.1 h
  induction hblocks with
  | nil => rfl
  | @cons e block catalog blocks he hrest ih =>
    have ih := ih (synthesize_eq_ok_iff.2 ⟨blocks, hrest, rfl⟩)
    rw [List.flatten_cons, List.length_append, ih]
    cases hvar : e.hasVariable t.layout with
    | true =>
      have hlength : block.length = 8 := by
        simpa [Primitive.all] using congrArg List.length (Declaration.variants_of_synthesize hvar he)
      simp only [List.countP_cons, hvar, hlength]
      simp
      omega
    | false =>
      obtain ⟨b, rfl, -⟩ := Declaration.eq_singleton_of_synthesize hvar he
      simp only [List.countP_cons, hvar]
      simp
      omega

/-! ### Origins -/

theorem hasVariable_of_isGeneric (h : collect t.layout classes = .ok catalog) {e : CatalogEntry}
    (he : e ∈ catalog) (hgeneric : e.isGeneric = true) : e.hasVariable t.layout = true := by
  obtain ⟨c, -, origin, -, m, -, -, hentry⟩ := exists_of_mem_collect h he
  obtain ⟨d, -, ⟨-, hnone⟩ | ⟨pattern, hclass, hsome⟩⟩ := entryOf_eq_ok hentry
  · cases hnone
  · cases hsome
    by_contra hvar
    rw [Bool.not_eq_true] at hvar
    rw [Declaration.classify, if_pos ⟨beq_iff_eq.1 hgeneric, hvar⟩] at hclass
    cases hclass

/-- Renaming takes the library's type variable out of a specialised interface, unless it keeps its
name. -/
theorem hasVariable_of_specialized (h : collect t.layout classes = .ok catalog)
    (hvariable : t.layout.typeVariable ≠ Declaration.specializedVariable) {e : CatalogEntry}
    (he : e ∈ catalog) (hspecialized : e.isGeneric = false) : e.hasVariable t.layout = false := by
  obtain ⟨c, -, origin, -, m, -, -, hentry⟩ := exists_of_mem_collect h he
  obtain ⟨d, hd, ⟨-, hnone⟩ | ⟨pattern, -, hsome⟩⟩ := entryOf_eq_ok hentry
  · cases hnone
  · cases hsome
    obtain ⟨read, -, hrel⟩ := hd.signature
    cases hsignature : d.signature with
    | none => rw [CatalogEntry.hasVariable, Declaration.hasTopLevel, hsignature]; rfl
    | some s =>
      rw [hsignature] at hrel
      cases origin with
      | generic =>
        rw [CatalogEntry.isGeneric, hd.origin] at hspecialized
        cases hspecialized
      | specialized p =>
        cases hrel with
        | some hadapt =>
          rw [CatalogEntry.hasVariable, Declaration.hasTopLevel, hsignature, Option.any_some]
          exact MethodSignature.not_hasTopLevel_rename hadapt hvariable

theorem expands_of_hasVariable_iff {e : CatalogEntry} {block : List Bridge}
    (hsame : e.hasVariable t.layout = e.isGeneric)
    (h : e.declaration.synthesize t e.pattern = .ok block) : e.declaration.Expands block := by
  cases horigin : e.declaration.origin with
  | generic =>
    have hvar : e.hasVariable t.layout = true := by
      rw [hsame, CatalogEntry.isGeneric, horigin]
      rfl
    exact .generic horigin (Declaration.variants_of_synthesize hvar h)
  | specialized p =>
    have hplain := hsame.trans (CatalogEntry.isGeneric_eq_false horigin)
    obtain ⟨b, rfl, hvariant, hdescriptor⟩ := Declaration.eq_singleton_of_synthesize hplain h
    exact .specialized horigin hvariant hdescriptor

/-- Only generic declarations are expanded exactly if, in a library whose type variable has the
name that is given to it, no specialised declaration has a variable of that name at its top. -/
theorem expandsGeneric_iff (hcatalog : collect t.layout classes = .ok catalog)
    (hbridges : synthesize t catalog = .ok bridges) :
    catalog.ExpandsGeneric t bridges ↔
      (t.layout.typeVariable = Declaration.specializedVariable → ∀ e ∈ catalog,
        e.isGeneric = false → e.declaration.hasTopLevel Declaration.specializedVariable = false) := by
  have hlength := length_synthesize hbridges
  constructor
  · intro h hvariable e he hspecialized
    have htotal := List.length_eq_countP_add_countP (·.isGeneric) (l := catalog)
    have htotal' := List.length_eq_countP_add_countP (·.hasVariable t.layout) (l := catalog)
    -- Every generic entry has the variable, so equal lengths leave no other entry with it.
    have hcounts := h.length
    simp only [Bool.not_eq_true, Bool.decide_eq_false] at htotal htotal'
    have hequal : catalog.countP (·.hasVariable t.layout) = catalog.countP (·.isGeneric) := by omega
    have hback := forall_of_countP_eq (fun e he => hasVariable_of_isGeneric hcatalog he) hequal e he
    rw [← hvariable, ← Bool.not_eq_true]
    intro hvar
    rw [hback hvar] at hspecialized
    cases hspecialized
  · intro h
    have hsame : ∀ e ∈ catalog, e.hasVariable t.layout = e.isGeneric := by
      intro e he
      cases hgeneric : e.isGeneric with
      | true => exact hasVariable_of_isGeneric hcatalog he hgeneric
      | false =>
        by_cases hvariable : t.layout.typeVariable = Declaration.specializedVariable
        · rw [CatalogEntry.hasVariable, hvariable]
          exact h hvariable e he hgeneric
        · exact hasVariable_of_specialized hcatalog hvariable he hgeneric
    obtain ⟨blocks, hblocks, rfl⟩ := synthesize_eq_ok_iff.1 hbridges
    refine ⟨⟨blocks, ?_, rfl⟩, ?_⟩
    · rw [List.forall₂_iff_zip] at hblocks ⊢
      refine ⟨hblocks.1, fun {e block} hpair => ?_⟩
      have hblock := hblocks.2 hpair
      exact ⟨hblock, expands_of_hasVariable_iff (hsame e (List.of_mem_zip hpair).1) hblock⟩
    · rw [hlength]
      congr 1
      · rw [List.countP_congr fun e he => by rw [hsame e he]]
      · exact List.countP_congr fun e he => by rw [hsame e he]

theorem expandsGeneric_small :
    collect smallLayout smallInterfaces = .ok smallCatalog ∧
    synthesize ⟨smallLayout, 7⟩ smallCatalog =
      .ok (Primitive.all.map smallBridge ++ [smallIntBridge]) ∧
    smallCatalog.ExpandsGeneric ⟨smallLayout, 7⟩
      (Primitive.all.map smallBridge ++ [smallIntBridge]) :=
  ⟨collect_small, synthesize_small,
    (expandsGeneric_iff collect_small synthesize_small).2 (by decide)⟩

/-! A library whose type variable has the name that specialised interfaces are renamed to. -/

def clashingLayout : Layout := { smallLayout with typeVariable := Declaration.specializedVariable }

def clashingMethod : Method :=
  ⟨["abstract".toList], "orElse".toList, "(LA;)LA;".toList, [.signature ⟨"(TU;)TU;".toList, none⟩]⟩

def clashingInterface : ClassFile := ⟨[.raw ".class IntI".toList, .method clashingMethod]⟩

def clashingSignature : MethodSignature := ⟨[], [⟨"TU;".toList⟩], ⟨"TU;".toList⟩, []⟩

def clashingDeclaration : Declaration :=
  ⟨.specialized .int, ["abstract".toList], "orElse".toList, smallDescriptor, some clashingSignature,
    none⟩

theorem mapVariables_clashing {f : Text → Option Text} {d : Descriptor}
    (h : f Declaration.specializedVariable = some d.text) :
    clashingSignature.mapVariables f = .ok ⟨[], [d], d, []⟩ := by
  have hvariable := Descriptor.mapVariables_variable Declaration.specializedVariable h
  exact MethodSignature.mapVariables_eq_ok.2 ⟨.nil, .cons hvariable .nil, hvariable, .nil⟩

theorem collect_clashing :
    collect clashingLayout [clashingInterface] = .ok [⟨clashingDeclaration, .orElse⟩] := by
  have horigin : clashingInterface.origin clashingLayout = .ok (.specialized .int) := by
    decide +kernel
  have hsignature : clashingMethod.parsedSignature = .ok (some clashingSignature) := by
    decide +kernel
  have hdescriptor : clashingMethod.parsedDescriptor = .ok smallDescriptor := by decide +kernel
  have hrename : clashingSignature.rename clashingLayout.typeVariable
      Declaration.specializedVariable = .ok clashingSignature :=
    bind_eq_ok.2 ⟨_, mapVariables_clashing (d := ⟨"TU;".toList⟩) (if_pos rfl), rfl⟩
  have hof : Declaration.ofMethod clashingLayout (.specialized .int) clashingMethod =
      .ok clashingDeclaration := by
    refine bind_eq_ok.2 ⟨_, hsignature, bind_eq_ok.2 ⟨some clashingSignature, ?_, ?_⟩⟩
    · exact map_eq_ok.2 ⟨_, hrename, rfl⟩
    · exact bind_eq_ok.2 ⟨_, hdescriptor, rfl⟩
  have hentry : entryOf clashingLayout (.specialized .int) clashingMethod =
      .ok (some ⟨clashingDeclaration, .orElse⟩) := by
    have hclass : clashingDeclaration.classify clashingLayout = .ok (.bridge .orElse) := by
      decide +kernel
    exact bind_eq_ok.2 ⟨_, PatchError.ofRead_eq_ok.2 hof, bind_eq_ok.2 ⟨_, hclass, rfl⟩⟩
  have hplaced : [clashingInterface].mapM (fun c => (c.origin clashingLayout).map (·, c)) =
      .ok [(.specialized .int, clashingInterface)] :=
    mapM_eq_ok.2 (.cons (map_eq_ok.2 ⟨_, horigin, rfl⟩) .nil)
  refine bind_eq_ok.2 ⟨_, hplaced, bind_eq_ok.2 ⟨[[⟨clashingDeclaration, .orElse⟩]], ?_, rfl⟩⟩
  rw [sortByOrigin, List.mergeSort_singleton]
  refine mapM_eq_ok.2 (.cons (bind_eq_ok.2 ⟨[some ⟨clashingDeclaration, .orElse⟩], ?_, rfl⟩) .nil)
  exact mapM_eq_ok.2 (.cons hentry .nil)

theorem exists_synthesize_clashing :
    ∃ bridges, synthesize ⟨clashingLayout, 7⟩ [⟨clashingDeclaration, .orElse⟩] = .ok bridges := by
  have hvariant (p : Primitive) : ∃ b,
      clashingDeclaration.variantBridge ⟨clashingLayout, 7⟩ .orElse clashingSignature p = .ok b := by
    obtain ⟨b, hb⟩ := exists_ok_of_isOk (x := clashingDeclaration.bridge ⟨clashingLayout, 7⟩ .orElse
      (some p) ⟨[p.boxedDescriptor], p.boxedDescriptor⟩
      (some ⟨[], [p.boxedDescriptor], p.boxedDescriptor, []⟩)) (by cases p <;> decide +kernel)
    exact ⟨b, Declaration.variantBridge_eq_ok.2
      ⟨_, rfl, _, mapVariables_clashing (d := p.boxedDescriptor) (if_pos rfl), hb⟩⟩
  choose bridge hbridge using hvariant
  have hvariants : Primitive.all.mapM (clashingDeclaration.variantBridge ⟨clashingLayout, 7⟩ .orElse
      clashingSignature) = .ok (Primitive.all.map bridge) := by
    rw [mapM_eq_ok, List.forall₂_map_right_iff, List.forall₂_same]
    exact fun p _ => hbridge p
  refine ⟨_, synthesize_eq_ok_iff.2 ⟨[Primitive.all.map bridge], .cons ?_ .nil, rfl⟩⟩
  exact (Declaration.synthesize_eq_ok_of_variable rfl (by decide)).2 hvariants

/-- A declaration of an interface for `int` is expanded into eight bridges. -/
theorem not_expandsGeneric_clashing : ∃ bridges,
    collect clashingLayout [clashingInterface] = .ok [⟨clashingDeclaration, .orElse⟩] ∧
    synthesize ⟨clashingLayout, 7⟩ [⟨clashingDeclaration, .orElse⟩] = .ok bridges ∧
    bridges.length = 8 ∧
    ¬ExpandsGeneric ⟨clashingLayout, 7⟩ [⟨clashingDeclaration, .orElse⟩] bridges := by
  obtain ⟨bridges, hbridges⟩ := exists_synthesize_clashing
  have hlength : bridges.length = 8 := by
    rw [length_synthesize hbridges]
    rfl
  refine ⟨bridges, collect_clashing, hbridges, hlength, fun h => ?_⟩
  have hone := h.length
  rw [hlength] at hone
  cases hone

end Catalog

end ErasedBridges
