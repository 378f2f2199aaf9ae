import ErasedBridges.Proofs.ClassFile.Printed

/-!
# The blocks of printed lines

Which block is open behind a line depends on the line and on the block before it. A class is closed
if no line in it opens or closes a block out of place: then its printed text, if it can be read at
all, is outside all blocks behind each item, and an interface that it lists is found again.
-/

namespace ErasedBridges

open Text

namespace Block

/-- The block that is open behind a line. -/
def after : Option Block → Text → Option Block
  | none, line => if (".method ".toList.isPrefixOf? (trimEnd line)).isSome then some method else none
  | some method, line =>
    if trim line = method.terminator then none
    else if (".code ".toList.isPrefixOf? (trim line)).isSome then some code
    else some method
  | some code, line =>
    if trim line = code.terminator then some method
    else match Table.ofOpener? (trim line) with
      | some t => some (table t)
      | none => some code
  | some (table t), line => if trim line = t.terminator then some code else some (table t)

theorem sizes_ne_terminator (rest : Text) : ".code ".toList ++ rest ≠ method.terminator := by
  intro h
  cases h

end Block

namespace ReaderState

theorem Takes.block? {n : Nat} {line : Text} {st st' : ReaderState} (h : Takes n line st st') :
    st'.block.block? = Block.after st.block.block? line := by
  cases h with
  | header start read =>
    rw [OpenBlock.block?, OpenBlock.block?, Block.after, start, isPrefixOf?_append]
    rfl
  | implements start =>
    rw [OpenBlock.block?, Block.after, start]
    rfl
  | classSignature start =>
    rw [OpenBlock.block?, Block.after, start]
    rfl
  | classRaw kept =>
    rw [OpenBlock.block?, Block.after, kept.header]
    rfl
  | methodEnd terminator =>
    rw [OpenBlock.block?, OpenBlock.block?, Block.after, if_pos terminator]
  | sizes start read =>
    rw [OpenBlock.block?, OpenBlock.block?, Block.after, start,
      if_neg (Block.sizes_ne_terminator _), isPrefixOf?_append]
    rfl
  | methodSignature start =>
    rw [OpenBlock.block?, OpenBlock.block?, Block.after, start]
    rfl
  | exceptions start =>
    rw [OpenBlock.block?, OpenBlock.block?, Block.after, start]
    rfl
  | methodRaw kept =>
    rw [OpenBlock.block?, OpenBlock.block?, Block.after, if_neg kept.terminator, kept.sizes]
    rfl
  | codeEnd terminator =>
    rw [OpenBlock.block?, OpenBlock.block?, Block.after, if_pos terminator]
  | opener opener =>
    rw [OpenBlock.block?, OpenBlock.block?, Block.after, opener, if_neg (opener_ne_terminator _),
      ofOpener?_eq_some.2 rfl]
  | instruction read =>
    rw [OpenBlock.block?, OpenBlock.block?, Block.after,
      if_neg (LabelledLine.trim_ne_of_read? read rfl), ofOpener?_eq_none read]
  | codeRaw kept =>
    rw [OpenBlock.block?, OpenBlock.block?, Block.after, if_neg kept.terminator, kept.opener]
  | tableEnd terminator read =>
    rw [OpenBlock.block?, OpenBlock.block?, Block.after, if_pos terminator]
  | entry entry => rw [OpenBlock.block?, OpenBlock.block?, Block.after, if_neg entry]

theorem Takes.items_isPrefix {n : Nat} {line : Text} {st st' : ReaderState}
    (h : Takes n line st st') : st.items <+: st'.items := by
  cases h with
  | implements | classSignature | classRaw | methodEnd => exact List.prefix_append _ _
  | _ => exact List.prefix_rfl

theorem block?_of_run {n : Nat} {lines : List Text} {st st' : ReaderState}
    (h : st.run n lines = .ok st') :
    st'.block.block? = lines.foldl Block.after st.block.block? := by
  induction lines generalizing n st with
  | nil =>
    cases h
    rfl
  | cons line lines ih =>
    obtain ⟨mid, hline, hrest⟩ := run_cons_eq_ok.1 h
    rw [ih hrest, hline.block?, List.foldl_cons]

theorem items_isPrefix_of_run {n : Nat} {lines : List Text} {st st' : ReaderState}
    (h : st.run n lines = .ok st') : st.items <+: st'.items := by
  induction lines generalizing n st with
  | nil =>
    cases h
    exact List.prefix_rfl
  | cons line lines ih =>
    obtain ⟨mid, hline, hrest⟩ := run_cons_eq_ok.1 h
    exact hline.items_isPrefix.trans (ih hrest)

end ReaderState

/-! ### Single lines -/

theorem trimEnd_dropReturn (s : Text) : trimEnd (dropReturn s) = trimEnd s := by
  rcases dropReturn_cases s with ⟨h, -⟩ | h
  · rw [h]
  · conv_rhs => rw [h, trimEnd_eq_rdropWhile, List.rdropWhile_concat_pos _ _ _ rfl]
    rfl

theorem trim_dropReturn (s : Text) : trim (dropReturn s) = trim s := by
  rw [trim, trimEnd_dropReturn, trim]

theorem Block.after_dropReturn (b : Option Block) (line : Text) :
    after b (dropReturn line) = after b line := by
  rcases b with _ | _ | _ | t
  · rw [after, trimEnd_dropReturn, after]
  · rw [after, trim_dropReturn, after]
  · rw [after, trim_dropReturn, after]
  · rw [after, trim_dropReturn, after]

theorem Block.foldl_after_dropReturn (b : Option Block) (lines : List Text) :
    (lines.map dropReturn).foldl after b = lines.foldl after b := by
  rw [List.foldl_map]
  simp only [after_dropReturn]

theorem trim_ne_of_ink {line s : Text} (h : (ink line).head? ≠ some '.')
    (hs : s.head? = some '.') : trim line ≠ s := by
  rintro rfl
  rw [← ink_trim] at h
  exact h (head?_ink hs rfl)

theorem isPrefix_ink_of_isPrefixOf? {start s rest : Text} (h : start.isPrefixOf? s = some rest) :
    ink start <+: ink s := by
  rw [isPrefixOf?_eq_some.1 h, ink_append]
  exact List.prefix_append _ _

theorem trimEnd_append (a : Text) {s : Text} (h : trimEnd s ≠ []) :
    trimEnd (a ++ s) = a ++ trimEnd s := by
  obtain ⟨b, hb, hs⟩ := exists_blank_trimEnd s
  have hends : EndsInInk (a ++ trimEnd s) := endsInInk_append h (endsInInk_trimEnd s)
  calc trimEnd (a ++ s) = trimEnd (a ++ trimEnd s ++ b) := by rw [List.append_assoc, ← hs]
    _ = a ++ trimEnd s := trimEnd_append_blank hends hb

theorem trimEnd_ne_nil {s : Text} {c : Char} (hc : c ∈ s) (hink : isBlank c = false) :
    trimEnd s ≠ [] := by
  obtain ⟨b, hb, hs⟩ := exists_blank_trimEnd s
  intro he
  rw [he, List.nil_append] at hs
  rw [hb c (hs ▸ hc)] at hink
  cases hink

namespace Block

theorem after_none_of_ink {line : Text} (h : ¬ ".method".toList <+: ink line) :
    after none line = none := by
  rw [after]
  cases hm : ".method ".toList.isPrefixOf? (trimEnd line) with
  | none => rfl
  | some rest => exact absurd (ink_trimEnd line ▸ isPrefix_ink_of_isPrefixOf? hm) h

theorem after_method_of_ink {line : Text} (hend : ¬ ".end".toList <+: ink line)
    (hcode : ¬ ".code".toList <+: ink line) : after (some method) line = some method := by
  have hne : trim line ≠ method.terminator := by
    intro ht
    refine hend ?_
    rw [← ink_trim, ht]
    decide
  rw [after, if_neg hne]
  cases hc : ".code ".toList.isPrefixOf? (trim line) with
  | none => rfl
  | some rest => exact absurd (ink_trim line ▸ isPrefix_ink_of_isPrefixOf? hc) hcode

theorem after_code_of_ink {line : Text} (h : (ink line).head? ≠ some '.') :
    after (some code) line = some code := by
  have ho : Table.ofOpener? (trim line) = none :=
    Option.eq_none_iff_forall_ne_some.2 fun table hopen =>
      trim_ne_of_ink h rfl (ReaderState.ofOpener?_eq_some.1 hopen)
  rw [after, if_neg (trim_ne_of_ink h rfl), ho]

theorem foldl_flatMap {ι : Type} {lines : ι → List Text} {b : Option Block} {is : List ι}
    (h : ∀ i ∈ is, (lines i).foldl after b = b) : (is.flatMap lines).foldl after b = b := by
  induction is with
  | nil => rfl
  | cons i is ih =>
    obtain ⟨hi, his⟩ := List.forall_mem_cons.1 h
    rw [List.flatMap_cons, List.foldl_append, hi, ih his]

end Block

/-! ### Closed parts -/

/-- No entry closes its table, and no other line leaves the code. -/
def CodeItem.Closed : CodeItem → Prop
  | instruction l => (ink l.printed).head? ≠ some '.'
  | lineNumbers es => ∀ e ∈ es, trim (entryIndent ++ e.printed) ≠ Table.lineNumbers.terminator
  | localVariables _ => True
  | localTypes _ => True
  | raw line => KeptInCode line

def Attribute.Closed : Attribute → Prop
  | code c => ∀ i ∈ c.items, i.Closed
  | signature _ => True
  | exceptions _ => True
  | raw line => KeptInMethod line

def Method.Closed (m : Method) : Prop := ∀ a ∈ m.attributes, a.Closed

def ClassItem.Closed : ClassItem → Prop
  | implements _ => True
  | signature _ => True
  | method m => m.Closed
  | raw line => KeptInClass line

open Block

theorem foldl_tableLines {table : Table} {entries : List Text}
    (h : ∀ e ∈ entries, trim (entryIndent ++ e) ≠ table.terminator) :
    (tableLines table entries).foldl after (some code) = some code := by
  have hopen : after (some code) (tableIndent ++ table.opener) = some (.table table) := by
    have htrim : trim (tableIndent ++ table.opener) = table.opener :=
      trim_blank_append blank_tableIndent (isWord_opener table).2.trimmed
    rw [after, htrim, if_neg (ReaderState.opener_ne_terminator table),
      ReaderState.ofOpener?_eq_some.2 rfl]
  have hentries : (entries.map (entryIndent ++ ·)).foldl after (some (.table table)) =
      some (.table table) := by
    rw [List.map_eq_flatMap]
    refine foldl_flatMap fun e he => ?_
    rw [List.foldl_cons, List.foldl_nil, after, if_neg (h e he)]
  have hend : trim (tableIndent ++ table.terminator) = table.terminator :=
    trim_blank_append blank_tableIndent (Block.table table).isPhrase_terminator.trimmed
  rw [tableLines, List.cons_append, List.foldl_cons, hopen, List.foldl_append, hentries,
    List.foldl_cons, List.foldl_nil, after, if_pos hend]

/-- An entry begins with its index. -/
theorem VariableEntry.trim_ne (e : VariableEntry) (table : Table) :
    trim (entryIndent ++ e.printed) ≠ table.terminator := by
  obtain ⟨digit, digits, hindex⟩ := List.exists_cons_of_ne_nil (decimal_ne_nil e.index)
  have hdigit : digit.isDigit = true :=
    isDigit_of_mem_decimal (n := e.index) (by rw [hindex]; exact List.mem_cons_self)
  have hhead : e.printed.head? = some digit := by
    rw [printed, hindex]
    rfl
  refine trim_ne_of_ink ?_ (by cases table <;> rfl)
  rw [ink_append, ink_blank blank_entryIndent, List.nil_append,
    head?_ink hhead (isBlank_of_isDigit hdigit)]
  rintro ⟨⟩
  cases hdigit

namespace CodeItem

theorem Closed.foldl_lines {i : CodeItem} (h : i.Closed) :
    i.lines.foldl after (some code) = some code := by
  cases i with
  | instruction l => exact after_code_of_ink h
  | lineNumbers es => exact foldl_tableLines (List.forall_mem_map.2 h)
  | localVariables es =>
    exact foldl_tableLines (List.forall_mem_map.2 fun e _ => e.trim_ne _)
  | localTypes es =>
    exact foldl_tableLines (List.forall_mem_map.2 fun e _ => e.trim_ne _)
  | raw line =>
    have hkept : KeptInCode line := h
    rw [lines, List.foldl_cons, List.foldl_nil, after, if_neg hkept.terminator, hkept.opener]

end CodeItem

theorem ink_attributeIndent (s : Text) : ink (attributeIndent ++ s) = ink s := by
  rw [ink_append, ink_blank blank_attributeIndent, List.nil_append]

namespace Attribute

theorem Closed.foldl_lines {a : Attribute} (h : a.Closed) :
    a.lines.foldl after (some method) = some method := by
  cases a with
  | code c =>
    have hwords := isPhrase_join (by simp [Code.sizeWords]) (Code.isWord_sizeWords c.stack c.locals)
    have hsizes := trim_indented ".code ".toList blank_attributeIndent rfl hwords
    have hend : trim (attributeIndent ++ Block.code.terminator) = Block.code.terminator :=
      trim_blank_append blank_attributeIndent Block.code.isPhrase_terminator.trimmed
    rw [lines, Code.lines_eq, List.foldl_cons, after, hsizes, if_neg (sizes_ne_terminator _),
      isPrefixOf?_append, Option.isSome_some, if_pos rfl, List.foldl_append,
      foldl_flatMap fun i hi => (h i hi).foldl_lines, List.foldl_cons, List.foldl_nil, after,
      if_pos hend]
  | signature s =>
    have hink : ink (attributeIndent ++ ".signature ".toList ++ s.text) =
        ".signature".toList ++ ink s.text := by
      rw [List.append_assoc, ink_attributeIndent, ink_append]
      rfl
    refine after_method_of_ink ?_ ?_
    · rw [hink]
      simp
    · rw [hink]
      simp
  | exceptions names =>
    have hink : ink (attributeIndent ++ ".exceptions ".toList ++ join [' '] names) =
        ".exceptions".toList ++ ink (join [' '] names) := by
      rw [List.append_assoc, ink_attributeIndent, ink_append]
      rfl
    refine after_method_of_ink ?_ ?_
    · rw [hink]
      simp
    · rw [hink]
      simp
  | raw line =>
    have hkept : KeptInMethod line := h
    rw [lines, List.foldl_cons, List.foldl_nil, after, if_neg hkept.terminator, hkept.sizes]
    rfl

end Attribute

namespace Method

/-- There is ink behind the first blank of a header, as there is a colon. -/
theorem after_header (m : Method) : after none m.header = some method := by
  have hcolon : ':' ∈ m.flags.flatMap (· ++ [' ']) ++ m.name ++ " : ".toList ++ m.descriptor := by
    simp
  have htrim : trimEnd m.header = ".method ".toList ++
      trimEnd (m.flags.flatMap (· ++ [' ']) ++ m.name ++ " : ".toList ++ m.descriptor) :=
    trimEnd_append _ (trimEnd_ne_nil hcolon rfl)
  rw [after, htrim, isPrefixOf?_append]
  rfl

theorem Closed.foldl_lines {m : Method} (h : m.Closed) : m.lines.foldl after none = none := by
  have hend : trim method.terminator = method.terminator :=
    trim_of_trimmed method.isPhrase_terminator.trimmed
  rw [lines, List.foldl_cons, after_header, List.foldl_append,
    foldl_flatMap fun a ha => (h a ha).foldl_lines, List.foldl_cons, List.foldl_nil, after,
    if_pos hend]

end Method

theorem ClassItem.Closed.foldl_lines {i : ClassItem} (h : i.Closed) :
    i.lines.foldl after none = none := by
  cases i with
  | implements name =>
    refine after_none_of_ink ?_
    rw [ink_append]
    simp [ink, isBlank]
  | signature s =>
    refine after_none_of_ink ?_
    rw [ink_append]
    simp [ink, isBlank]
  | method m => exact Method.Closed.foldl_lines h
  | raw line =>
    have hkept : KeptInClass line := h
    rw [lines, List.foldl_cons, List.foldl_nil, after, hkept.header]
    rfl

/-! ### What is read is closed -/

section

variable {P : Text → Prop}

theorem LabelledLine.Readable.head?_ink_ne {l : LabelledLine} (h : l.Readable) :
    (ink l.printed).head? ≠ some '.' := by
  obtain ⟨first, hfirst, halpha⟩ := h.first
  obtain ⟨k, hk⟩ := l.printed_eq
  have hhead : l.printed.head? = some first := by
    rw [hk, List.head?_append, hfirst]
    rfl
  rw [head?_ink hhead (isBlank_of_isLabelChar (h.label first (List.mem_of_head? hfirst)))]
  rintro ⟨⟩
  cases halpha

theorem CodeItem.Readable.closed {i : CodeItem} (h : i.Readable P) : i.Closed := by
  cases i with
  | instruction l => exact LabelledLine.Readable.head?_ink_ne h
  | lineNumbers es => exact fun e he => (h e he).trim_ne _
  | localVariables es => trivial
  | localTypes es => trivial
  | raw line => exact h.2

theorem Method.Readable.closed {m : Method} (h : m.Readable P) : m.Closed := by
  intro a ha
  have ha := h.attributes a ha
  cases a with
  | code c => exact fun i hi => (ha.items i hi).closed
  | signature s => trivial
  | exceptions names => trivial
  | raw line => exact ha.2

theorem ClassItem.Readable.closed {i : ClassItem} (h : i.Readable P) : i.Closed := by
  cases i with
  | implements name => trivial
  | signature s => trivial
  | method m => exact Method.Readable.closed h
  | raw line => exact h.2

end

namespace ClassFile

/-- An interface of a closed class is an interface again, if the printed text can be read. -/
theorem mem_interfaces_of_read_printed {c c' : ClassFile} (hbreaks : ∀ l ∈ c.lines, '\n' ∉ l)
    (hclosed : ∀ i ∈ c.items, i.Closed) (hread : read c.printed = .ok c') {name : Text}
    (hname : IsWord name) (hmem : .implements name ∈ c.items) : name ∈ c'.interfaces := by
  obtain ⟨before, after, hitems⟩ := List.mem_iff_append.1 hmem
  have hlines : c.lines = before.flatMap ClassItem.lines ++
      (".implements ".toList ++ name) :: after.flatMap ClassItem.lines := by
    rw [lines, hitems, List.flatMap_append, List.flatMap_cons]
    rfl
  have hline : dropReturn (".implements ".toList ++ name) = ".implements ".toList ++ name :=
    dropReturn_of_last_ne (endsInInk_append hname.1 hname.2.trimmed.2).last_ne
  have htext : textLines c.printed = (before.flatMap ClassItem.lines).map dropReturn ++
      (".implements ".toList ++ name) :: (after.flatMap ClassItem.lines).map dropReturn := by
    rw [textLines, printed, split_join hbreaks (by rw [hlines]; simp), hlines, List.map_append,
      List.map_cons, hline]
  rw [read_eq_ok, htext] at hread
  obtain ⟨st, hbefore, hrest⟩ := ReaderState.run_append_eq_ok.1 hread
  obtain ⟨st', htakes, hafter⟩ := ReaderState.run_cons_eq_ok.1 hrest
  -- The items before it are closed, so its line is met outside all blocks.
  have hblock : st.block.block? = none := by
    rw [ReaderState.block?_of_run hbefore, foldl_after_dropReturn]
    refine foldl_flatMap fun i hi => (hclosed i ?_).foldl_lines
    rw [hitems]
    exact List.mem_append_left _ hi
  obtain ⟨items, block⟩ := st
  cases block with
  | none =>
    have himplements (n : Nat) : ReaderState.Takes n (".implements ".toList ++ name)
        ⟨items, .none⟩ ⟨items ++ [.implements (trim name)], .none⟩ :=
      .implements (trimEnd_phrase _ hname.isPhrase)
    rw [trim_of_trimmed hname.2.trimmed] at himplements
    cases Except.ok.inj ((ReaderState.step_eq_ok.2 htakes).symm.trans
      (ReaderState.step_eq_ok.2 (himplements _)))
    have hsubset := (ReaderState.items_isPrefix_of_run hafter).subset
    exact List.mem_filterMap.2 ⟨_, hsubset (List.mem_append_right _ List.mem_cons_self), rfl⟩
  | _ => cases hblock

end ClassFile

end ErasedBridges
