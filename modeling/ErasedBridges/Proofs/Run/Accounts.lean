import ErasedBridges.Proofs.Bridge.Expansion
import ErasedBridges.Proofs.Run.Ensures
import ErasedBridges.Run.Patcher

/-!
# What a run writes

A run hands the patched classes to the toolchain in a fixed order and stops at the first failure,
so what was written is always a first part of that order. Each write can be accounted for by the
calls before it: its text is the patch of the text that was read last, and the empty class is not
written before every bridge has been made.
-/

namespace ErasedBridges

namespace ToolCall

def written? : ToolCall → Option Text
  | assembled c _ (.ok _) => some c
  | _ => none

def textOf? (className : Text) : ToolCall → Option Text
  | disassembled c (.ok s) => if c = className then some s else none
  | _ => none

theorem exists_of_written? {call : ToolCall} {c : Text} (h : call.written? = some c) :
    ∃ s paths, call = .assembled c s (.ok paths) := by
  cases call with
  | disassembled c' r => cases h
  | assembled c' s r =>
    cases r with
    | error e => cases h
    | ok paths =>
      cases h
      exact ⟨s, paths, rfl⟩

end ToolCall

def lastText? (className : Text) (calls : List ToolCall) : Option Text :=
  (calls.filterMap (·.textOf? className)).getLast?

/-- The toolchain gave a text of this class that reads as `c`. -/
def WasRead (calls : List ToolCall) (className : Text) (c : ClassFile) : Prop :=
  ∃ s, ToolCall.disassembled className (.ok s) ∈ calls ∧ ClassFile.read s = .ok c

namespace Layout

/-- The classes of present values in the order of the variants, and then the empty class. -/
def writeOrder (l : Layout) : List Text := Primitive.all.map l.someClass ++ [l.emptyClassName]

end Layout

/-- The nine interfaces were read, their abstract methods were classified, and each entry of the
catalog gave its bridges. -/
structure BridgesMade (l : Layout) (calls : List ToolCall) (bridges : List Bridge)
    (classes : List ClassFile) (catalog : Catalog) (line : Nat) : Prop where
  interfaces : List.Forall₂ (WasRead calls) (l.baseInterfaceName :: l.interfaces) classes
  collected : Catalog.collect l classes = .ok catalog
  classified : ∀ c ∈ classes, ∀ m ∈ c.methods, m.isAbstract = true →
    ∃ origin d classification, c.origin l = .ok origin ∧
      Declaration.Declares l origin m d ∧ d.classify l = .ok classification ∧
      ∀ pattern, classification = .bridge pattern → ⟨d, pattern⟩ ∈ catalog
  synthesized : ∃ blocks, bridges = blocks.flatten ∧
    List.Forall₂ (fun e block => e.declaration.synthesize ⟨l, line⟩ e.pattern = .ok block)
      catalog blocks

/-- After these calls it is the turn of the class, and this is the text to hand in. A layout may
call the empty class like a class of present values: its own turn is still the last. -/
inductive Justified (l : Layout) (calls : List ToolCall) : Text → Text → Prop where
  | cast {p : Primitive} {s : Text} {c patched : ClassFile}
      (turn : calls.filterMap ToolCall.assembled? = (Primitive.all.take p.index).map l.someClass)
      (text : lastText? (l.someClass p) calls = some s) (read : ClassFile.read s = .ok c)
      (patch : c.eliminateCast l.castMethod = .ok patched) :
      Justified l calls (l.someClass p) patched.printed
  | empty {classes : List ClassFile} {catalog : Catalog} {line : Nat} {bridges : List Bridge}
      {s : Text} {c patched : ClassFile}
      (turn : calls.filterMap ToolCall.assembled? = Primitive.all.map l.someClass)
      (made : BridgesMade l calls bridges classes catalog line)
      (text : lastText? l.emptyClassName calls = some s) (read : ClassFile.read s = .ok c)
      (patch : c.patchEmpty l (bridges.map Bridge.method) = .ok patched) :
      Justified l calls l.emptyClassName patched.printed

/-- Every write is justified by what was done before it. -/
def Accounted (l : Layout) (calls : List ToolCall) : Prop :=
  ∀ before className text result after,
    calls = before ++ .assembled className text result :: after → Justified l before className text

/-- The first `n` classes have been written, and no other write was tried. -/
structure Reached (l : Layout) (n : Nat) (calls : List ToolCall) : Prop where
  accounted : Accounted l calls
  assembled : calls.filterMap ToolCall.assembled? = l.writeOrder.take n
  written : calls.filterMap ToolCall.written? = l.writeOrder.take n

/-- The run has failed before all classes were written. -/
structure Stopped (l : Layout) (calls : List ToolCall) : Prop where
  accounted : Accounted l calls
  unfinished : (calls.filterMap ToolCall.written?).length < 9

variable {l : Layout} {n : Nat} {calls : List ToolCall}

/-! ### One call more -/

theorem lastText?_append_disassembled {c s : Text} :
    lastText? c (calls ++ [.disassembled c (.ok s)]) = some s := by
  simp [lastText?, ToolCall.textOf?]

theorem mem_of_lastText? {c s : Text} (h : lastText? c calls = some s) :
    .disassembled c (.ok s) ∈ calls := by
  obtain ⟨call, hmem, hcall⟩ := List.mem_filterMap.1 (List.mem_of_getLast? h)
  cases call with
  | assembled c' s' r => cases hcall
  | disassembled c' r =>
    cases r with
    | error e => cases hcall
    | ok s' =>
      change (if c' = c then some s' else none) = some s at hcall
      split_ifs at hcall with hc
      cases hcall
      exact hc ▸ hmem

theorem WasRead.append {className : Text} {c : ClassFile} (h : WasRead calls className c)
    (more : List ToolCall) : WasRead (calls ++ more) className c := by
  obtain ⟨s, hs, hread⟩ := h
  exact ⟨s, List.mem_append_left more hs, hread⟩

theorem accounted_nil : Accounted l [] := by
  intro before className text result after h
  simp at h

theorem accounted_concat {call : ToolCall} :
    Accounted l (calls ++ [call]) ↔ Accounted l calls ∧
      ∀ className text result, call = .assembled className text result →
        Justified l calls className text := by
  constructor
  · intro h
    refine ⟨fun before className text result after heq => ?_, ?_⟩
    · exact h before className text result (after ++ [call]) (by rw [heq]; simp)
    · rintro className text result rfl
      exact h calls className text result [] rfl
  · rintro ⟨h, hlast⟩ before className text result after heq
    rcases List.eq_nil_or_concat after with rfl | ⟨after, call', rfl⟩
    · obtain ⟨rfl, hcall⟩ := List.append_inj' heq rfl
      exact hlast className text result (List.singleton_inj.1 hcall)
    · rw [List.concat_eq_append, ← List.cons_append, ← List.append_assoc] at heq
      exact h before className text result after (List.append_inj' heq rfl).1

theorem Accounted.disassembled (h : Accounted l calls) (c : Text) (r : Except JobError Text) :
    Accounted l (calls ++ [.disassembled c r]) :=
  accounted_concat.2 ⟨h, nofun⟩

theorem Accounted.assembled (h : Accounted l calls) {c s : Text} (hjust : Justified l calls c s)
    (r : Except JobError (List Path)) : Accounted l (calls ++ [.assembled c s r]) := by
  refine accounted_concat.2 ⟨h, fun _ _ _ hcall => ?_⟩
  cases hcall
  exact hjust

theorem length_writeOrder (l : Layout) : l.writeOrder.length = 9 := by
  rw [Layout.writeOrder, List.length_append, List.length_map]
  rfl

theorem take_writeOrder (l : Layout) (p : Primitive) :
    l.writeOrder.take p.index = (Primitive.all.take p.index).map l.someClass := by
  cases p <;> rfl

theorem getElem?_writeOrder (l : Layout) (p : Primitive) :
    l.writeOrder[p.index]? = some (l.someClass p) := by
  cases p <;> rfl

namespace Reached

theorem disassembled (h : Reached l n calls) (c : Text) (r : Except JobError Text) :
    Reached l n (calls ++ [.disassembled c r]) where
  accounted := h.accounted.disassembled c r
  assembled := by rw [List.filterMap_append, h.assembled]; exact List.append_nil _
  written := by rw [List.filterMap_append, h.written]; exact List.append_nil _

theorem written_ok (h : Reached l n calls) {c s : Text} (hturn : l.writeOrder[n]? = some c)
    (hjust : Justified l calls c s) (paths : List Path) :
    Reached l (n + 1) (calls ++ [.assembled c s (.ok paths)]) where
  accounted := h.accounted.assembled hjust _
  assembled := by
    rw [List.filterMap_append, h.assembled, List.take_add_one, hturn]
    rfl
  written := by
    rw [List.filterMap_append, h.written, List.take_add_one, hturn]
    rfl

theorem stopped (h : Reached l n calls) (hn : n < 9) : Stopped l calls where
  accounted := h.accounted
  unfinished := by
    rw [h.written, List.length_take]
    exact (min_le_left _ _).trans_lt hn

theorem written_error (h : Reached l n calls) (hn : n < 9) {c s : Text}
    (hjust : Justified l calls c s) (e : JobError) :
    Stopped l (calls ++ [.assembled c s (.error e)]) where
  accounted := h.accounted.assembled hjust _
  unfinished := by
    rw [List.filterMap_append]
    exact (List.append_nil (calls.filterMap ToolCall.written?)).symm ▸ (h.stopped hn).unfinished

end Reached

/-- In an accounted history the writes follow the order. -/
theorem Accounted.assembled_isPrefix (h : Accounted l calls) :
    calls.filterMap ToolCall.assembled? <+: l.writeOrder := by
  induction calls using List.reverseRecOn with
  | nil => exact List.nil_prefix
  | append_singleton calls call ih =>
    obtain ⟨hcalls, hlast⟩ := accounted_concat.1 h
    rw [List.filterMap_append]
    cases call with
    | disassembled c r =>
      exact (List.append_nil (calls.filterMap ToolCall.assembled?)).symm ▸ ih hcalls
    | assembled c s r =>
      cases hlast c s r rfl with
      | @cast p _ _ _ turn text read patch =>
        rw [turn, ← take_writeOrder]
        have hprefix := List.take_prefix (p.index + 1) l.writeOrder
        rwa [List.take_add_one, getElem?_writeOrder] at hprefix
      | empty turn made text read patch =>
        rw [turn]
        exact List.prefix_rfl

/-! ### The parts of a run -/

namespace Plan

variable {E : JobError → List ToolCall → Prop}

theorem ensures_load {c : Text} {Q : ClassFile → List ToolCall → Prop}
    (ok : ∀ s read, ClassFile.read s = .ok read → Q read (calls ++ [.disassembled c (.ok s)]))
    (error : ∀ e r, E e (calls ++ [.disassembled c r])) : (load c).Ensures Q E calls := by
  refine ensures_bind.2 ⟨fun s => ensures_ofPatch.2 ⟨fun read hread => ?_, fun e _ => ?_⟩,
    fun e => error e _⟩
  · exact ok s read (PatchError.ofRead_eq_ok.1 hread)
  · exact error _ _

theorem ensures_eliminateCast (p : Primitive) (h : Reached l p.index calls) :
    (eliminateCast l (l.someClass p)).Ensures (fun _ => Reached l (p.index + 1))
      (fun _ => Stopped l) calls := by
  have hindex : p.index < 9 := by cases p <;> decide
  refine ensures_bind.2 (ensures_load (fun s c hread => ?_)
    fun e r => (h.disassembled _ r).stopped hindex)
  have hloaded := h.disassembled (l.someClass p) (.ok s)
  refine ensures_bind.2 (ensures_ofPatch.2 ⟨fun patched hpatch => ?_,
    fun e _ => hloaded.stopped hindex⟩)
  have hjust : Justified l (calls ++ [.disassembled (l.someClass p) (.ok s)]) (l.someClass p)
      patched.printed :=
    .cast (hloaded.assembled.trans (take_writeOrder l p)) lastText?_append_disassembled hread hpatch
  exact ensures_bind.2 ⟨fun paths => hloaded.written_ok (getElem?_writeOrder l p) hjust paths,
    fun e => hloaded.written_error hindex hjust e⟩

theorem ensures_collectCatalog (h : Reached l 8 calls) :
    (collectCatalog l).Ensures (fun catalog calls => Reached l 8 calls ∧ ∃ classes,
        List.Forall₂ (WasRead calls) (l.baseInterfaceName :: l.interfaces) classes ∧
        Catalog.collect l classes = .ok catalog)
      (fun _ => Stopped l) calls := by
  refine ensures_bind.2 (Ensures.mono (ensures_mapM
    (I := fun done classes calls => Reached l 8 calls ∧ List.Forall₂ (WasRead calls) done classes)
    (fun done name rest classes calls _ hI => ?_) ⟨h, .nil⟩) fun classes calls hI => ?_)
  · refine ensures_load (fun s c hread => ⟨hI.1.disassembled _ _, ?_⟩)
      fun e r => (hI.1.disassembled _ r).stopped (by decide)
    refine List.rel_append (hI.2.imp fun _ _ h => h.append _) (.cons ?_ .nil)
    exact ⟨s, List.mem_append_right _ List.mem_cons_self, hread⟩
  · exact ensures_ofPatch.2 ⟨fun catalog hcatalog => ⟨hI.1, classes, hI.2, hcatalog⟩,
      fun e _ => hI.1.stopped (by decide)⟩

theorem ensures_sourceLine {sources : Path} {Q : Nat → List ToolCall → Prop}
    (ok : ∀ line, Q line calls) (error : ∀ e, E e calls) :
    (sourceLine l sources).Ensures Q E calls := by
  refine ensures_bind.2 ⟨fun s => ?_, fun e => error _⟩
  dsimp only [Ensures]
  split
  · next line _ => exact ok line
  · exact error _

theorem bridgesMade_of_collect {classes : List ClassFile} {catalog : Catalog} {line : Nat}
    {bridges : List Bridge}
    (hread : List.Forall₂ (WasRead calls) (l.baseInterfaceName :: l.interfaces) classes)
    (hcatalog : Catalog.collect l classes = .ok catalog)
    (hbridges : catalog.synthesize ⟨l, line⟩ = .ok bridges) :
    BridgesMade l calls bridges classes catalog line where
  interfaces := hread
  collected := hcatalog
  classified := by
    intro c hc m hm habstract
    obtain ⟨origin, e?, horigin, hentry, hmem⟩ :=
      Catalog.exists_entryOf_of_collect hcatalog hc hm habstract
    obtain ⟨d, hdeclares, ⟨hclass, -⟩ | ⟨pattern, hclass, he⟩⟩ := Catalog.entryOf_eq_ok hentry
    · exact ⟨origin, d, _, horigin, hdeclares, hclass, nofun⟩
    · refine ⟨origin, d, _, horigin, hdeclares, hclass, fun pattern' hpattern => ?_⟩
      cases hpattern
      exact hmem _ he
  synthesized := by
    obtain ⟨blocks, hblocks, rfl⟩ := Catalog.synthesize_eq_ok_iff.1 hbridges
    exact ⟨blocks, rfl, hblocks⟩

theorem ensures_patchEmpty {sources : Path} {catalog : Catalog} {classes : List ClassFile}
    (h : Reached l 8 calls)
    (hread : List.Forall₂ (WasRead calls) (l.baseInterfaceName :: l.interfaces) classes)
    (hcatalog : Catalog.collect l classes = .ok catalog) :
    (patchEmpty l sources catalog).Ensures (fun _ => Reached l 9) (fun _ => Stopped l) calls := by
  have hstopped : Stopped l calls := h.stopped (by decide)
  refine ensures_bind.2 (ensures_sourceLine (fun line => ?_) fun _ => hstopped)
  refine ensures_bind.2 (ensures_ofPatch.2 ⟨fun bridges hbridges => ?_, fun _ _ => hstopped⟩)
  refine ensures_bind.2 (ensures_load (fun s c hc => ?_)
    fun e r => (h.disassembled _ r).stopped (by decide))
  have hloaded := h.disassembled l.emptyClassName (.ok s)
  refine ensures_bind.2 (ensures_ofPatch.2 ⟨fun patched hpatch => ?_,
    fun e _ => hloaded.stopped (by decide)⟩)
  have hjust : Justified l (calls ++ [.disassembled l.emptyClassName (.ok s)]) l.emptyClassName
      patched.printed :=
    .empty hloaded.assembled (bridgesMade_of_collect (hread.imp fun _ _ h => h.append _) hcatalog
      hbridges) lastText?_append_disassembled hc hpatch
  exact ensures_bind.2 ⟨fun paths => hloaded.written_ok rfl hjust paths,
    fun e => hloaded.written_error (by decide) hjust e⟩

/-- A run that succeeds has written all nine classes, and one that fails has not. -/
theorem ensures_patchLibrary (l : Layout) (sources : Path) :
    (patchLibrary l sources).Ensures (fun _ => Reached l 9) (fun _ => Stopped l) [] := by
  -- The place of a variant is the number of classes written before it.
  have hcasts : ∀ done p rest, Primitive.all = done ++ p :: rest → p.index = done.length := by
    intro done p rest hall
    have hget : Primitive.all[done.length]? = some p := by rw [hall]; simp
    exact (List.getElem?_inj (by cases p <;> decide) (by decide)).1
      ((Primitive.getElem?_index_all p).trans hget.symm)
  refine ensures_bind.2 (Ensures.mono (ensures_mapM
    (I := fun done _ calls => Reached l done.length calls) (fun done p rest _ calls hall h => ?_)
    ⟨accounted_nil, rfl, rfl⟩) fun casts calls h => ?_)
  · rw [List.length_append, List.length_singleton, ← hcasts done p rest hall]
    exact ensures_eliminateCast p (hcasts done p rest hall ▸ h)
  · refine ensures_bind.2 ((ensures_collectCatalog h).mono fun catalog calls ⟨h, classes, hread,
      hcatalog⟩ => ?_)
    exact ensures_bind.2 ((ensures_patchEmpty h hread hcatalog).mono fun _ _ h => h)

variable {σ : Type}

theorem accounted_patchLibrary (t : Toolchain σ) (l : Layout) (sources : Path) (st : σ) :
    Accounted l ((patchLibrary l sources).execute t st).calls := by
  obtain ⟨hok, herror⟩ := (ensures_patchLibrary l sources).execute t st
  cases h : ((patchLibrary l sources).execute t st).result with
  | ok report => exact (hok report h).accounted
  | error e => exact (herror e h).accounted

theorem isOk_patchLibrary_iff (t : Toolchain σ) (l : Layout) (sources : Path) (st : σ) :
    ((patchLibrary l sources).execute t st).result.isOk = true ↔
      ((patchLibrary l sources).execute t st).calls.filterMap ToolCall.written? = l.writeOrder := by
  obtain ⟨hok, herror⟩ := (ensures_patchLibrary l sources).execute t st
  cases h : ((patchLibrary l sources).execute t st).result with
  | ok report => exact iff_of_true rfl (hok report h).written
  | error e =>
    refine iff_of_false nofun fun hall => (herror e h).unfinished.ne ?_
    rw [List.nil_append, hall, length_writeOrder]

/-- Whatever the toolchain answers, a run writes the classes in order, it succeeds exactly if
the toolchain took all nine, and every text that is handed in is justified by the calls before. -/
theorem writes_of_patchLibrary (t : Toolchain σ) (l : Layout) (sources : Path) (st : σ) :
    let run := (patchLibrary l sources).execute t st
    run.calls.filterMap ToolCall.assembled? <+:
        Primitive.all.map l.someClass ++ [l.emptyClassName] ∧
      (run.result.isOk = true ↔ run.calls.filterMap ToolCall.written? =
        Primitive.all.map l.someClass ++ [l.emptyClassName]) ∧
      ∀ before className text result after,
        run.calls = before ++ .assembled className text result :: after →
          Justified l before className text := by
  have haccounted := accounted_patchLibrary t l sources st
  exact ⟨haccounted.assembled_isPrefix, isOk_patchLibrary_iff t l sources st, haccounted⟩

end Plan

end ErasedBridges
