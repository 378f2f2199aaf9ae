import ErasedBridges.Proofs.ClassFile.Run

/-!
# Readable classes

A class is readable if each of its parts can come from a line that is read in its place. `P` is
what is known of the lines that are kept as they stand. Reading gives readable classes, and the
printed lines of a readable class satisfy `P` if all lines that end in ink do.
-/

namespace ErasedBridges

open Text

variable {P : Text → Prop}

def CodeItem.Readable (P : Text → Prop) : CodeItem → Prop
  | instruction l => l.Readable
  | lineNumbers es => ∀ e ∈ es, e.Readable
  | localVariables es => ∀ e ∈ es, e.Readable
  | localTypes es => ∀ e ∈ es, e.Readable
  | raw line => P line ∧ KeptInCode line

structure Code.Readable (P : Text → Prop) (c : Code) : Prop where
  stack : c.stack ≤ maxShort
  locals : c.locals ≤ maxShort
  items : ∀ i ∈ c.items, i.Readable P

def Attribute.Readable (P : Text → Prop) : Attribute → Prop
  | code c => c.Readable P
  | signature s => s.Readable
  | exceptions names => names ≠ [] ∧ ∀ w ∈ names, IsWord w
  | raw line => P line ∧ KeptInMethod line

structure Method.Readable (P : Text → Prop) (m : Method) : Prop where
  header : m.ReadableHeader
  attributes : ∀ a ∈ m.attributes, a.Readable P

def ClassItem.Readable (P : Text → Prop) : ClassItem → Prop
  | implements name => name.IsPhrase
  | signature s => s.Readable
  | method m => m.Readable P
  | raw line => P line ∧ KeptInClass line

def ClassFile.Readable (P : Text → Prop) (c : ClassFile) : Prop := ∀ i ∈ c.items, i.Readable P

def OpenBlock.Readable (P : Text → Prop) : OpenBlock → Prop
  | none => True
  | method m => m.Readable P
  | code m c => m.Readable P ∧ c.Readable P
  | table m c _ _ => m.Readable P ∧ c.Readable P

structure ReaderState.Readable (P : Text → Prop) (st : ReaderState) : Prop where
  items : ∀ i ∈ st.items, i.Readable P
  block : st.block.Readable P

/-! ### Reading gives readable parts -/

theorem Method.Readable.addAttribute {m : Method} {a : Attribute} (hm : m.Readable P)
    (ha : a.Readable P) : (m.addAttribute a).Readable P :=
  ⟨⟨hm.header.isWord, hm.header.descriptor⟩,
    List.forall_mem_append.2 ⟨hm.attributes, List.forall_mem_singleton.2 ha⟩⟩

theorem Code.Readable.addItem {c : Code} {i : CodeItem} (hc : c.Readable P)
    (hi : i.Readable P) : (c.addItem i).Readable P :=
  ⟨hc.stack, hc.locals, List.forall_mem_append.2 ⟨hc.items, List.forall_mem_singleton.2 hi⟩⟩

theorem readEntries_eq_ok {α : Type} {read : Text → Except LineFault α}
    {entries : List NumberedLine} {as : List α} :
    readEntries read entries = .ok as ↔
      List.Forall₂ (fun line a => read line = .ok a) (entries.map Prod.snd) as := by
  rw [readEntries, mapM_eq_ok, List.forall₂_map_left_iff]
  simp only [atLine_eq_ok]

theorem forall_mem_of_readEntries {α : Type} {read : Text → Except LineFault α} {Q : α → Prop}
    (hread : ∀ {line a}, read line = .ok a → Q a) {entries : List NumberedLine} {as : List α}
    (h : readEntries read entries = .ok as) : ∀ a ∈ as, Q a := by
  rw [readEntries_eq_ok] at h
  generalize entries.map Prod.snd = lines at h
  induction h with
  | nil => exact List.forall_mem_nil _
  | cons ha _ ih => exact List.forall_mem_cons.2 ⟨hread ha, ih⟩

theorem readable_readTable {table : Table} {entries : List NumberedLine} {item : CodeItem}
    (h : table.read entries = .ok item) : item.Readable P := by
  cases table with
  | lineNumbers =>
    obtain ⟨es, hes, rfl⟩ := map_eq_ok.1 h
    exact forall_mem_of_readEntries LineEntry.readable_read hes
  | localVariables =>
    obtain ⟨es, hes, rfl⟩ := map_eq_ok.1 h
    exact forall_mem_of_readEntries VariableEntry.readable_read hes
  | localTypes =>
    obtain ⟨es, hes, rfl⟩ := map_eq_ok.1 h
    exact forall_mem_of_readEntries VariableEntry.readable_read hes

theorem Code.readable_readSizes {s : Text} {c : Code} (h : readSizes s = .ok c) :
    c.Readable P := by
  obtain ⟨hitems, stack, locals, -, hstack, hlocals⟩ := readSizes_eq_ok.1 h
  refine ⟨le_of_readDecimal? hstack, le_of_readDecimal? hlocals, ?_⟩
  rw [hitems]
  exact List.forall_mem_nil _

namespace ReaderState

theorem readable_initial : initial.Readable P := ⟨List.forall_mem_nil _, trivial⟩

theorem Takes.readable {n : Nat} {line : Text} {st st' : ReaderState} (h : Takes n line st st')
    (hP : P line) (hb : '\n' ∉ line) (hst : st.Readable P) : st'.Readable P := by
  have hadd {items : List ClassItem} {i : ClassItem} (hitems : ∀ i ∈ items, i.Readable P)
      (hi : i.Readable P) : ∀ j ∈ items ++ [i], j.Readable P :=
    List.forall_mem_append.2 ⟨hitems, List.forall_mem_singleton.2 hi⟩
  have hend : EndsInInk (trimEnd line) := endsInInk_trimEnd line
  have hends : EndsInInk (trim line) := (trimmed_trim line).2
  have hbreak : '\n' ∉ trimEnd line := fun hm => hb (mem_of_mem_trimEnd hm)
  have hbreaks : '\n' ∉ trim line := fun hm => hb (mem_of_mem_trim hm)
  obtain ⟨hitems, hblock⟩ := hst
  cases h with
  | header start read =>
    rw [start] at hend hbreak
    have hheader := Method.readableHeader_read (rest_of_endsInInk hend rfl).2
      (fun hm => hbreak (List.mem_append_right _ hm)) read
    refine ⟨hitems, hheader, ?_⟩
    rw [(Method.readHeader_eq_ok.1 read).1]
    exact List.forall_mem_nil _
  | implements start =>
    rw [start] at hend hbreak
    exact ⟨hadd hitems (isPhrase_trim_rest hend rfl hbreak), trivial⟩
  | classSignature start =>
    rw [start] at hend hbreak
    exact ⟨hadd hitems (SignatureText.readable_read (isPhrase_trim_rest hend rfl hbreak)), trivial⟩
  | classRaw kept => exact ⟨hadd hitems ⟨hP, kept⟩, trivial⟩
  | methodEnd => exact ⟨hadd hitems hblock, trivial⟩
  | sizes start read => exact ⟨hitems, hblock, Code.readable_readSizes read⟩
  | methodSignature start =>
    rw [start] at hends hbreaks
    exact ⟨hitems, hblock.addAttribute
      (SignatureText.readable_read (isPhrase_trim_rest hends rfl hbreaks))⟩
  | exceptions start =>
    rw [start] at hends
    obtain ⟨hne, hrest⟩ := rest_of_endsInInk hends rfl
    exact ⟨hitems, hblock.addAttribute
      ⟨words_ne_nil hrest hne, fun w hw => isWord_of_mem_words hw⟩⟩
  | methodRaw kept => exact ⟨hitems, hblock.addAttribute ⟨hP, kept⟩⟩
  | codeEnd => exact ⟨hitems, hblock.1.addAttribute hblock.2⟩
  | opener => exact ⟨hitems, hblock⟩
  | instruction read =>
    exact ⟨hitems, hblock.1, hblock.2.addItem (LabelledLine.readable_read? hb read)⟩
  | codeRaw kept => exact ⟨hitems, hblock.1, hblock.2.addItem ⟨hP, kept⟩⟩
  | tableEnd terminator read =>
    exact ⟨hitems, hblock.1, hblock.2.addItem (readable_readTable read)⟩
  | entry => exact ⟨hitems, hblock⟩

end ReaderState

theorem ClassFile.break_notMem_of_mem_textLines {t line : Text} (h : line ∈ textLines t) :
    '\n' ∉ line := by
  obtain ⟨piece, hpiece, rfl⟩ := List.mem_map.1 h
  intro hm
  exact absurd (of_mem_split hpiece _ (mem_of_mem_dropReturn hm)).1 (by decide)

theorem ClassFile.readable_read {t : Text} {c : ClassFile} (h : read t = .ok c)
    (hP : ∀ line ∈ textLines t, P line) : c.Readable P := by
  refine (read_induction (motive := fun _ st => st.Readable P) ReaderState.readable_initial ?_
    h).items
  intro done line st st' hmeets htakes hst
  have hline : line ∈ textLines t := hmeets.lines.subset (by simp)
  exact htakes.readable (hP line hline) (break_notMem_of_mem_textLines hline) hst

/-! ### Printed lines -/

theorem isWord_opener (table : Table) : IsWord table.opener := by
  cases table <;> decide

theorem Block.terminator_eq (b : Block) :
    ∃ v, IsWord v ∧ b.terminator = join [' '] [".end".toList, v] := by
  rcases b with _ | _ | table
  · exact ⟨"method".toList, by decide, rfl⟩
  · exact ⟨"code".toList, by decide, rfl⟩
  · exact ⟨table.name, by cases table <;> decide, by cases table <;> rfl⟩

theorem Block.isPhrase_terminator (b : Block) : IsPhrase b.terminator := by
  obtain ⟨v, hv, h⟩ := b.terminator_eq
  rw [h]
  exact isPhrase_join (by simp) (by simpa using ⟨by decide, hv⟩)

theorem isInkLine_tableLines {table : Table} {entries : List Text}
    (h : ∀ e ∈ entries, e.IsPhrase) : ∀ l ∈ tableLines table entries, IsInkLine l := by
  rw [tableLines, List.cons_append]
  simp only [List.forall_mem_cons, List.forall_mem_append, List.forall_mem_map]
  have htable : '\n' ∉ tableIndent := by decide
  have hentry : '\n' ∉ entryIndent := by decide
  exact ⟨(isWord_opener table).isPhrase.isInkLine_append htable,
    fun e he => (h e he).isInkLine_append hentry,
    (Block.table table).isPhrase_terminator.isInkLine_append htable, List.forall_mem_nil _⟩

section

variable (hP : ∀ s, IsInkLine s → P s)
include hP

theorem CodeItem.Readable.lines {i : CodeItem} (h : i.Readable P) : ∀ l ∈ i.lines, P l := by
  cases i with
  | instruction l =>
    have hl : l.Readable := h
    exact List.forall_mem_singleton.2 (hP _ hl.isInkLine_printed)
  | lineNumbers es =>
    have hes : ∀ e ∈ es.map LineEntry.printed, IsPhrase e :=
      List.forall_mem_map.2 fun e he => (h e he).isPhrase_printed
    exact fun l hl => hP l (isInkLine_tableLines hes l hl)
  | localVariables es =>
    have hes : ∀ e ∈ es.map VariableEntry.printed, IsPhrase e :=
      List.forall_mem_map.2 fun e he => (h e he).isPhrase_printed
    exact fun l hl => hP l (isInkLine_tableLines hes l hl)
  | localTypes es =>
    have hes : ∀ e ∈ es.map VariableEntry.printed, IsPhrase e :=
      List.forall_mem_map.2 fun e he => (h e he).isPhrase_printed
    exact fun l hl => hP l (isInkLine_tableLines hes l hl)
  | raw line => exact List.forall_mem_singleton.2 h.1

theorem Code.Readable.lines {c : Code} (h : c.Readable P) : ∀ l ∈ c.lines, P l := by
  have hindent : '\n' ∉ attributeIndent := by decide
  have hcode : '\n' ∉ attributeIndent ++ ".code ".toList := by decide
  rw [Code.lines_eq, ← List.append_assoc]
  simp only [List.forall_mem_cons, List.forall_mem_append, List.forall_mem_flatMap]
  refine ⟨hP _ (IsPhrase.isInkLine_append hcode ?_), fun i hi => (h.items i hi).lines hP,
    hP _ (Block.code.isPhrase_terminator.isInkLine_append hindent), List.forall_mem_nil _⟩
  exact isPhrase_join (by simp [Code.sizeWords]) (Code.isWord_sizeWords _ _)

theorem Attribute.Readable.lines {a : Attribute} (h : a.Readable P) : ∀ l ∈ a.lines, P l := by
  cases a with
  | code c => exact Code.Readable.lines hP h
  | signature s =>
    have hs : s.Readable := h
    have hstart : '\n' ∉ attributeIndent ++ ".signature ".toList := by decide
    exact List.forall_mem_singleton.2 (hP _ (hs.isPhrase_text.isInkLine_append hstart))
  | exceptions names =>
    have hstart : '\n' ∉ attributeIndent ++ ".exceptions ".toList := by decide
    exact List.forall_mem_singleton.2 (hP _ ((isPhrase_join h.1 h.2).isInkLine_append hstart))
  | raw line => exact List.forall_mem_singleton.2 h.1

theorem Method.Readable.lines {m : Method} (h : m.Readable P) : ∀ l ∈ m.lines, P l := by
  have hend : IsInkLine Block.method.terminator :=
    Block.method.isPhrase_terminator.isInkLine_append List.not_mem_nil
  simp only [Method.lines, List.forall_mem_cons, List.forall_mem_append, List.forall_mem_flatMap]
  exact ⟨hP _ h.header.isInkLine_header, fun a ha => (h.attributes a ha).lines hP, hP _ hend,
    List.forall_mem_nil _⟩

theorem ClassItem.Readable.lines {i : ClassItem} (h : i.Readable P) : ∀ l ∈ i.lines, P l := by
  cases i with
  | implements name =>
    have hname : IsPhrase name := h
    have hstart : '\n' ∉ ".implements ".toList := by decide
    exact List.forall_mem_singleton.2 (hP _ (hname.isInkLine_append hstart))
  | signature s =>
    have hs : s.Readable := h
    have hstart : '\n' ∉ ".signature ".toList := by decide
    exact List.forall_mem_singleton.2 (hP _ (hs.isPhrase_text.isInkLine_append hstart))
  | method m => exact Method.Readable.lines hP h
  | raw line => exact List.forall_mem_singleton.2 h.1

theorem ClassFile.Readable.lines {c : ClassFile} (h : c.Readable P) : ∀ l ∈ c.lines, P l :=
  List.forall_mem_flatMap.2 fun i hi => (h i hi).lines hP

end

end ErasedBridges
