import ErasedBridges.Proofs.Body.Calls
import ErasedBridges.Proofs.ClassFile.Readable

/-!
# Laid out bodies can be read

The code that a body is laid out as is readable if its instructions and locals are made of words
and are not too many: then every instruction prints as a phrase, and the sizes and slots fit.
-/

namespace ErasedBridges

open Text

variable {P : Text → Prop}

theorem Descriptor.slots_le (d : Descriptor) : d.slots ≤ 2 := by
  rw [slots]
  split
  · exact Nat.zero_le 2
  · cases d.baseType? with
    | none => decide
    | some b => cases b <;> decide

theorem slotsOf_le (ds : List Descriptor) : slotsOf ds ≤ 2 * ds.length := by
  induction ds with
  | nil => exact Nat.zero_le _
  | cons d ds ih =>
    have hd := d.slots_le
    rw [slotsOf] at ih
    rw [slotsOf, List.foldr_cons, List.length_cons]
    omega

/-! ### Instructions -/

namespace Instruction

def HasWords : Instruction → Prop
  | cast className => IsWord className
  | invoke c => BlankFree c.owner ∧ BlankFree c.name ∧ BlankFree c.descriptor.text
  | _ => True

theorem isPhrase_call {opcode owner name d tail : Text} {letter : Char} (onInterface : Bool)
    (hletter : opcode.head? = some letter) (hblank : isBlank letter = false)
    (hopcode : '\n' ∉ opcode) (howner : BlankFree owner) (hname : BlankFree name)
    (hd : IsPhrase (d ++ tail)) :
    IsPhrase (opcode ++ (if onInterface then " InterfaceMethod ".toList else " Method ".toList) ++
      owner ++ ' ' :: name ++ ' ' :: d ++ tail) := by
  have hinterface : '\n' ∉ if onInterface then " InterfaceMethod ".toList
      else " Method ".toList := by
    split <;> decide
  have hhead : (opcode ++ (if onInterface then " InterfaceMethod ".toList
      else " Method ".toList) ++ owner ++ ' ' :: name ++ [' ']).head? = some letter := by
    simp only [List.append_assoc, List.head?_append, hletter, Option.some_or]
  have hbreak : '\n' ∉ opcode ++ (if onInterface then " InterfaceMethod ".toList
      else " Method ".toList) ++ owner ++ ' ' :: name ++ [' '] := by
    simp only [List.mem_append, List.mem_cons, not_or]
    exact ⟨⟨⟨⟨hopcode, hinterface⟩, howner.break_notMem⟩, by decide, hname.break_notMem⟩, by decide⟩
  have hphrase := hd.append hhead hblank hbreak
  rw [List.append_assoc _ [' ']] at hphrase
  rw [List.append_assoc _ (' ' :: d)]
  exact hphrase

theorem isPhrase_callee {c : Callee} (howner : BlankFree c.owner) (hname : BlankFree c.name)
    (hdescriptor : BlankFree c.descriptor.text) : IsPhrase c.text := by
  have hword : IsWord c.descriptor.text := ⟨List.cons_ne_nil _ _, hdescriptor⟩
  obtain ⟨letter, hletter⟩ : ∃ letter, c.kind.opcode.head? = some letter ∧ isBlank letter = false ∧
      '\n' ∉ c.kind.opcode := by
    cases c.kind <;> exact ⟨'i', by decide⟩
  refine isPhrase_call c.onInterface hletter.1 hletter.2.1 hletter.2.2 howner hname ?_
  split
  -- the number of argument words ends the text
  · rw [← List.singleton_append, ← List.append_assoc]
    refine (isWord_decimal _).isPhrase.append (c := '(') rfl rfl ?_
    rw [List.mem_append]
    exact not_or.2 ⟨hword.2.break_notMem, by decide⟩
  · rw [List.append_nil]
    exact hword.isPhrase

theorem isPhrase_load (kind : ValueKind) (slot : Nat) : IsPhrase (load kind slot).text := by
  have hopcode : '\n' ∉ "load".toList := by
    decide
  have hsep : '\n' ∉ [if slot ≤ 3 then '_' else ' '] := by
    split <;> decide
  have hletter : isBlank kind.letter = false ∧ '\n' ≠ kind.letter := by
    cases kind <;> decide
  have htext : (load kind slot).text =
      kind.letter :: ("load".toList ++ [if slot ≤ 3 then '_' else ' ']) ++ decimal slot := by
    rw [List.cons_append, List.append_assoc]
    rfl
  rw [htext]
  refine (isWord_decimal slot).isPhrase.append (c := kind.letter) rfl hletter.1 ?_
  rw [List.mem_cons, List.mem_append]
  exact not_or.2 ⟨hletter.2, not_or.2 ⟨hopcode, hsep⟩⟩

theorem HasWords.isPhrase_text {i : Instruction} (h : i.HasWords) : IsPhrase i.text := by
  cases i with
  | load kind slot => exact isPhrase_load kind slot
  | ret kind =>
    cases kind with
    | none => exact (show IsWord "return".toList by decide).isPhrase
    | some kind =>
      have hword : IsWord (kind.letter :: "return".toList) := by
        cases kind <;> decide
      exact hword.isPhrase
  | throw => exact (show IsWord "athrow".toList by decide).isPhrase
  | zero => exact (show IsWord "iconst_0".toList by decide).isPhrase
  | cast className =>
    have hclass : IsWord className := h
    exact hclass.isPhrase.append (a := "checkcast ".toList) rfl rfl (by decide)
  | invoke c => exact isPhrase_callee h.1 h.2.1 h.2.2

theorem pushed_le (i : Instruction) : i.pushed ≤ 2 := by
  cases i with
  | load kind slot =>
    show kind.words ≤ 2
    cases kind <;> decide
  | ret kind => exact Nat.zero_le 2
  | throw => exact Nat.zero_le 2
  | zero => exact Nat.le_succ 1
  | cast className => exact Nat.le_succ 1
  | invoke c => exact c.descriptor.returnType.slots_le

end Instruction

namespace Body

/-! ### Sizes -/

theorem le_of_mem_depthsFrom {depth d : Nat} {is : List Instruction}
    (h : d ∈ depthsFrom depth is) : d ≤ depth + 2 * is.length := by
  induction is generalizing depth with
  | nil => cases h
  | cons i is ih =>
    have hi := i.pushed_le
    have hafter : depthAfter depth i ≤ depth + 2 := by
      rw [depthAfter]
      omega
    rw [List.length_cons]
    rcases List.mem_cons.1 h with rfl | h
    · omega
    · have := ih h
      omega

theorem foldl_max_le {bound start : Nat} {ds : List Nat} (hstart : start ≤ bound)
    (h : ∀ d ∈ ds, d ≤ bound) : ds.foldl max start ≤ bound := by
  induction ds generalizing start with
  | nil => exact hstart
  | cons d ds ih =>
    obtain ⟨hd, hds⟩ := List.forall_mem_cons.1 h
    exact ih (max_le hstart hd) hds

theorem maxStack_le (b : Body) : b.maxStack ≤ 2 * b.instructions.length := by
  refine foldl_max_le (Nat.zero_le _) fun d hd => ?_
  have := le_of_mem_depthsFrom hd
  omega

theorem maxLocals_le (ls : List LocalVariable) (is : List Instruction) :
    (of ls is).maxLocals ≤ 2 * ls.length :=
  (slotsOf_le _).trans (by rw [List.length_map])

theorem le_of_mem_placedFrom {slot : Nat} {ls : List LocalVariable} {p : Nat × LocalVariable}
    (h : p ∈ placedFrom slot ls) : p.1 ≤ slot + 2 * ls.length := by
  induction ls generalizing slot with
  | nil => cases h
  | cons l ls ih =>
    have hl := l.type.slots_le
    rw [List.length_cons]
    rcases List.mem_cons.1 h with rfl | h
    · exact Nat.le_add_right _ _
    · have := ih h
      omega

/-! ### Items -/

structure HasWords (ls : List LocalVariable) (is : List Instruction) : Prop where
  instructions : ∀ i ∈ is, i.HasWords
  instructionCount : 2 * is.length ≤ maxShort
  name : ∀ l ∈ ls, IsWord l.name
  type : ∀ l ∈ ls, IsWord l.type.text
  generic : ∀ l ∈ ls, ∀ g ∈ l.generic, IsWord g.text
  localCount : 2 * ls.length ≤ maxShort

theorem isWord_label (offset : Nat) : IsWord (label offset) :=
  ⟨List.cons_ne_nil _ _, .cons rfl (isWord_decimal offset).2⟩

theorem readable_labelled {offset : Nat} {text : Text} (h : text = [] ∨ IsPhrase text) :
    LabelledLine.Readable ⟨label offset, text⟩ := by
  refine ⟨⟨'L', rfl, rfl⟩, ?_, ?_, ?_⟩
  · refine List.forall_mem_cons.2 ⟨rfl, fun c hc => ?_⟩
    rw [LabelledLine.isLabelChar, Char.isAlphanum, isDigit_of_mem_decimal hc]
    simp
  · rcases h with rfl | h
    · have hempty : BlankFree [] := List.forall_mem_nil _
      exact hempty.trimmed
    · exact h.trimmed
  · rcases h with rfl | h
    · exact List.not_mem_nil
    · exact h.breakFree

theorem readable_of_mem_linesFrom {offset : Nat} {is : List Instruction} {l : LabelledLine}
    (h : ∀ i ∈ is, i.HasWords) (hl : l ∈ linesFrom offset is) : l.Readable := by
  induction is generalizing offset with
  | nil =>
    rw [List.mem_singleton.1 hl]
    exact readable_labelled (Or.inl rfl)
  | cons i is ih =>
    obtain ⟨hi, his⟩ := List.forall_mem_cons.1 h
    rcases List.mem_cons.1 hl with rfl | hl
    · exact readable_labelled (Or.inr hi.isPhrase_text)
    · exact ih his hl

section

variable {ls : List LocalVariable} {is : List Instruction}

theorem HasWords.readable_entry (h : HasWords ls is) {slot : Nat} {l : LocalVariable}
    (hl : (slot, l) ∈ (of ls is).locals) {type : Descriptor} (htype : IsWord type.text) :
    ((of ls is).entry slot l.name type).Readable := by
  have hle := le_of_mem_placedFrom hl
  have hcount := h.localCount
  have hindex : ((of ls is).entry slot l.name type).index ≤ maxShort := by
    show slot ≤ maxShort
    omega
  exact ⟨hindex, h.name l (mem_of_mem_placedFrom hl), htype, isWord_label _, isWord_label _⟩

theorem HasWords.readable_layOut (h : HasWords ls is) {line : Nat} (hline : line ≤ maxLine) :
    ((of ls is).layOut (some line)).Readable P := by
  refine ⟨(maxStack_le _).trans h.instructionCount, (maxLocals_le ls is).trans h.localCount, ?_⟩
  have hvariables : ∀ e ∈ (of ls is).variableEntries, e.Readable := by
    intro e he
    obtain ⟨⟨slot, l⟩, hl, rfl⟩ := List.mem_map.1 he
    exact h.readable_entry hl (h.type l (mem_of_mem_placedFrom hl))
  have htypes : ∀ e ∈ (of ls is).variableTypeEntries, e.Readable := by
    intro e he
    obtain ⟨⟨slot, l⟩, hl, hgeneric⟩ := List.mem_filterMap.1 he
    obtain ⟨g, hg, rfl⟩ := Option.map_eq_some_iff.1 hgeneric
    exact h.readable_entry hl (h.generic l (mem_of_mem_placedFrom hl) g hg)
  have hlines : ∀ i ∈ (linesFrom 0 is).map CodeItem.instruction, i.Readable P :=
    List.forall_mem_map.2 fun l hl => readable_of_mem_linesFrom h.instructions hl
  have hnumber : CodeItem.Readable P (.lineNumbers [⟨label 0, line⟩]) :=
    List.forall_mem_singleton.2 ⟨isWord_label 0, hline⟩
  simp only [layOut, List.forall_mem_append]
  refine ⟨⟨⟨hlines, List.forall_mem_singleton.2 hnumber⟩, ?_⟩, ?_⟩
  · split
    · exact List.forall_mem_nil _
    · exact List.forall_mem_singleton.2 hvariables
  · split
    · exact List.forall_mem_nil _
    · exact List.forall_mem_singleton.2 htypes

end

end Body

end ErasedBridges
