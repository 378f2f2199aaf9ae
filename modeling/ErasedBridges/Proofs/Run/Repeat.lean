import ErasedBridges.Proofs.Patch.Reread
import ErasedBridges.Proofs.Run.Accounts
import ErasedBridges.Proofs.Run.Store

/-!
# A run cannot be repeated

A run that succeeds leaves the text of a patched empty class. A second run may get as far as the
empty class, but there it reads this text, finds the interfaces in it and fails.
-/

namespace ErasedBridges

variable {l : Layout} {calls : List ToolCall} {s text : Text}

/-- The one text is the empty class that is read from the other, patched. -/
def PatchesEmpty (l : Layout) (s text : Text) : Prop :=
  ∃ (c : ClassFile) (bridges : List Bridge) (patched : ClassFile),
    ClassFile.read s = .ok c ∧ (∀ b ∈ bridges, ∀ line ∈ b.method.lines, '\n' ∉ line) ∧
      c.patchEmpty l (bridges.map Bridge.method) = .ok patched ∧ text = patched.printed

theorem PatchesEmpty.not_again (hl : l.BlankFree) (h : PatchesEmpty l s text) (text' : Text) :
    ¬ PatchesEmpty l text text' := by
  obtain ⟨c, bridges, patched, hc, hbridges, hpatch, rfl⟩ := h
  rintro ⟨again, methods, result, hread, -, hagain, -⟩
  exact ClassFile.patchEmpty_ne_ok_of_patched hl hc hbridges hpatch hread _ _ hagain

theorem BridgesMade.unbroken (hl : l.BlankFree) {bridges : List Bridge} {classes : List ClassFile}
    {catalog : Catalog} {line : Nat} (h : BridgesMade l calls bridges classes catalog line) :
    ∀ b ∈ bridges, ∀ line ∈ b.method.lines, '\n' ∉ line := by
  obtain ⟨blocks, hblocks, hall⟩ := h.synthesized
  refine Catalog.lines_of_synthesize hl (fun c hc => ?_) h.collected
    (Catalog.synthesize_eq_ok_iff.2 ⟨blocks, hall, hblocks⟩)
  obtain ⟨i, hi, rfl⟩ := List.mem_iff_getElem.1 hc
  obtain ⟨s, -, hs⟩ := h.interfaces.get (h.interfaces.length_eq ▸ hi) hi
  exact ⟨s, hs⟩

/-- What justifies a write of the empty class, where no other class has its name. -/
theorem Justified.of_empty (hl : l.BlankFree) (hne : ∀ p, l.someClass p ≠ l.emptyClassName)
    (h : Justified l calls l.emptyClassName text) :
    calls.filterMap ToolCall.assembled? = Primitive.all.map l.someClass ∧
      ∃ s, lastText? l.emptyClassName calls = some s ∧ PatchesEmpty l s text := by
  generalize hname : l.emptyClassName = className at h
  cases h with
  | cast turn text read patch => exact absurd hname.symm (hne _)
  | empty turn made text read patch =>
    exact ⟨turn, _, text, _, _, _, read, made.unbroken hl, patch, rfl⟩

namespace Plan

variable {σ : Type} {t : Toolchain σ} {kept : σ → Text → Option Text} {st : σ} {sources : Path}

theorem kept_emptyClass_of_patchLibrary (ht : t.Keeps kept) (hl : l.BlankFree)
    (hne : ∀ p, l.someClass p ≠ l.emptyClassName)
    (hok : ((patchLibrary l sources).execute t st).result.isOk = true) :
    ∃ s text, kept ((patchLibrary l sources).execute t st).state l.emptyClassName = some text ∧
      PatchesEmpty l s text := by
  have hwritten := (isOk_patchLibrary_iff t l sources st).1 hok
  rw [Layout.writeOrder] at hwritten
  obtain ⟨first, rest, hcalls, -, hrest⟩ := List.filterMap_eq_append_iff.1 hwritten
  obtain ⟨between, call, after, rfl, -, hcall, hafter⟩ := List.filterMap_eq_cons_iff.1 hrest
  obtain ⟨text, paths, rfl⟩ := ToolCall.exists_of_written? hcall
  rw [← List.append_assoc] at hcalls
  obtain ⟨-, s, -, hpatches⟩ :=
    (accounted_patchLibrary t l sources st _ _ _ _ _ hcalls).of_empty hl hne
  refine ⟨s, text, ?_, hpatches⟩
  rw [ht.kept_execute _ _ hok, hcalls]
  refine replay_of_last_write fun call hmem hwrite => ?_
  cases (List.filterMap_eq_nil_iff.1 hafter call hmem).symm.trans hwrite

theorem patchesEmpty_of_assembled (ht : t.Keeps kept) (hl : l.BlankFree)
    (hne : ∀ p, l.someClass p ≠ l.emptyClassName)
    (hmem : l.emptyClassName ∈
      ((patchLibrary l sources).execute t st).calls.filterMap ToolCall.assembled?) :
    ∃ s text, kept st l.emptyClassName = some s ∧ PatchesEmpty l s text := by
  obtain ⟨call, hcall, hempty⟩ := List.mem_filterMap.1 hmem
  obtain ⟨before, after, hcalls⟩ := List.append_of_mem hcall
  cases call with
  | disassembled c r => cases hempty
  | assembled c text r =>
    cases hempty
    obtain ⟨hturn, s, hlast, hpatches⟩ :=
      (accounted_patchLibrary t l sources st _ _ _ _ _ hcalls).of_empty hl hne
    have hserved := ht.served_execute (patchLibrary l sources) st
    rw [hcalls] at hserved
    -- Before the turn of the empty class only the classes of present values were written.
    refine ⟨s, text, hserved.append_left.kept_of_mem (fun call hbefore hwrite => ?_)
      (mem_of_lastText? hlast), hpatches⟩
    obtain ⟨s', paths, rfl⟩ := ToolCall.exists_of_written? hwrite
    have hturn' : l.emptyClassName ∈ Primitive.all.map l.someClass :=
      hturn ▸ List.mem_filterMap.2 ⟨_, hbefore, rfl⟩
    obtain ⟨p, -, hp⟩ := List.mem_map.1 hturn'
    exact hne p hp

/-- A run that succeeds cannot be repeated: the same run on what it leaves fails, and fails before
it hands in the empty class. -/
theorem patchLibrary_not_repeated (t : Toolchain σ) (kept : σ → Text → Option Text)
    (ht : t.Keeps kept) (l : Layout) (hl : l.BlankFree)
    (hne : ∀ p, l.someClass p ≠ l.emptyClassName) (sources : Path) (st : σ)
    (hok : ((patchLibrary l sources).execute t st).result.isOk = true) :
    let again := (patchLibrary l sources).execute t ((patchLibrary l sources).execute t st).state
    (∃ e, again.result = .error e) ∧
      l.emptyClassName ∉ again.calls.filterMap ToolCall.assembled? := by
  intro again
  obtain ⟨s, text, hkept, hpatched⟩ := kept_emptyClass_of_patchLibrary ht hl hne hok
  have hnot : l.emptyClassName ∉ again.calls.filterMap ToolCall.assembled? := by
    intro hmem
    obtain ⟨s', text', hkept', hagain⟩ := patchesEmpty_of_assembled ht hl hne hmem
    obtain rfl : text = s' := Option.some.inj (hkept.symm.trans hkept')
    exact hpatched.not_again hl text' hagain
  refine ⟨?_, hnot⟩
  cases hresult : again.result with
  | error e => exact ⟨e, rfl⟩
  | ok report =>
    have hwritten := (isOk_patchLibrary_iff t l sources _).1 (congrArg Except.isOk hresult)
    have hempty : l.emptyClassName ∈ l.writeOrder :=
      List.mem_append_right _ List.mem_cons_self
    rw [← hwritten] at hempty
    obtain ⟨call, hmem, hcall⟩ := List.mem_filterMap.1 hempty
    obtain ⟨text, paths, rfl⟩ := ToolCall.exists_of_written? hcall
    exact (hnot (List.mem_filterMap.2 ⟨_, hmem, rfl⟩)).elim

/-! A library of copies of one class. A run on it goes through once. -/

open ClassFile (castLayout castText intInterface)

/-- One interface has a method, the others have none. -/
def castInterfaces : List ClassFile :=
  (castLayout.baseInterfaceName :: castLayout.interfaces).map fun name =>
    if name = "IntI".toList then intInterface else ⟨[.raw (".class ".toList ++ name)]⟩

def castMemory : Memory where
  classes := Primitive.all.map (fun p => (castLayout.someClass p, castText)) ++
    (castLayout.emptyClassName, castText) ::
      (castLayout.baseInterfaceName :: castLayout.interfaces).zip
        (castInterfaces.map ClassFile.printed)
  sources := [("N.java".toList, "class N".toList)]

def castCatalog : Catalog :=
  [⟨⟨.specialized .int, ["abstract".toList], "getAsInt".toList, ⟨[], ⟨['I']⟩⟩, none, none⟩,
    .throwNotPresent⟩]

/-- The library when only the empty class is left to be patched. -/
def castMemoryAfter : Memory :=
  ((Primitive.all.mapM fun p => eliminateCast castLayout (castLayout.someClass p)).execute
    Memory.toolchain castMemory).state

theorem collect_castInterfaces : Catalog.collect castLayout castInterfaces = .ok castCatalog := by
  have hplaced : castInterfaces.mapM (fun c => (c.origin castLayout).map (·, c)) =
      .ok (.zip (.generic :: Primitive.all.map .specialized) castInterfaces) := by decide +kernel
  have hsort : Catalog.sortByOrigin (.zip (.generic :: Primitive.all.map .specialized)
      castInterfaces) = .zip (.generic :: Primitive.all.map .specialized) castInterfaces :=
    List.mergeSort_of_pairwise (by decide +kernel)
  refine bind_eq_ok.2 ⟨_, hplaced, ?_⟩
  rw [hsort]
  decide +kernel

theorem execute_collectCatalog_castMemoryAfter : ∃ calls,
    (collectCatalog castLayout).execute Memory.toolchain castMemoryAfter =
      ⟨.ok castCatalog, castMemoryAfter, calls⟩ := by
  have hloads : (((castLayout.baseInterfaceName :: castLayout.interfaces).mapM load).execute
      Memory.toolchain castMemoryAfter).result = .ok castInterfaces := by
    decide +kernel
  have hstate : (((castLayout.baseInterfaceName :: castLayout.interfaces).mapM load).execute
      Memory.toolchain castMemoryAfter).state = castMemoryAfter := by
    decide +kernel
  rw [collectCatalog, execute_bind hloads, collect_castInterfaces, hstate]
  exact ⟨_, rfl⟩

theorem isOk_castMemory :
    ((patchLibrary castLayout []).execute Memory.toolchain castMemory).result.isOk = true := by
  have hcasts : ((Primitive.all.mapM fun p =>
      eliminateCast castLayout (castLayout.someClass p)).execute Memory.toolchain
        castMemory).result.isOk = true := by
    decide +kernel
  have hempty : ((patchEmpty castLayout [] castCatalog).execute Memory.toolchain
      castMemoryAfter).result.isOk = true := by
    decide +kernel
  obtain ⟨casts, hcasts⟩ := exists_ok_of_isOk hcasts
  obtain ⟨calls, hcollect⟩ := execute_collectCatalog_castMemoryAfter
  obtain ⟨empty, hempty⟩ := exists_ok_of_isOk hempty
  rw [patchLibrary, execute_bind hcasts, ← castMemoryAfter]
  dsimp only
  rw [execute_bind (congrArg Outcome.result hcollect), hcollect, execute_bind hempty]
  rfl

theorem patchLibrary_not_repeated_cast : Memory.toolchain.Keeps Memory.textOf? ∧
    castLayout.BlankFree ∧ (∀ p, castLayout.someClass p ≠ castLayout.emptyClassName) ∧
    let first := (patchLibrary castLayout []).execute Memory.toolchain castMemory
    let again := (patchLibrary castLayout []).execute Memory.toolchain first.state
    first.result.isOk = true ∧ (∃ e, again.result = .error e) ∧
      castLayout.emptyClassName ∉ again.calls.filterMap ToolCall.assembled? := by
  have hl : castLayout.BlankFree := by
    rw [Layout.BlankFree]
    decide +kernel
  have hne : ∀ p, castLayout.someClass p ≠ castLayout.emptyClassName := by
    intro p
    cases p <;> decide
  exact ⟨Memory.keeps_toolchain, hl, hne, isOk_castMemory, patchLibrary_not_repeated
    Memory.toolchain Memory.textOf? Memory.keeps_toolchain castLayout hl hne [] castMemory
    isOk_castMemory⟩

end Plan

end ErasedBridges
