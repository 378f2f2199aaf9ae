import ErasedBridges.Proofs.Bridge.Printable
import ErasedBridges.Proofs.ClassFile.Blocks

/-!
# The lines of bridges

The interfaces may be read from texts of any kind, and then a type in a bridge may have blanks and
the bridge not be read again. But its lines are those that it was given, for none of them has a
break in it, and it opens and closes its blocks like any other method.
-/

namespace ErasedBridges

open Text

/-! ### Instructions -/

namespace Instruction

theorem HasWords.break_notMem {i : Instruction} (h : i.HasWords) : '\n' ∉ i.text :=
  h.isPhrase_text.breakFree

theorem break_notMem_cast {className : Text} (h : '\n' ∉ className) :
    '\n' ∉ (cast className).text := by
  have hopcode : '\n' ∉ "checkcast ".toList := by
    decide
  change '\n' ∉ "checkcast ".toList ++ className
  rw [List.mem_append]
  exact not_or.2 ⟨hopcode, h⟩

theorem break_notMem_call {opcode owner name d tail : Text} (onInterface : Bool)
    (hopcode : '\n' ∉ opcode) (howner : '\n' ∉ owner) (hname : '\n' ∉ name) (hd : '\n' ∉ d)
    (htail : '\n' ∉ tail) :
    '\n' ∉ opcode ++ (if onInterface then " InterfaceMethod ".toList else " Method ".toList) ++
      owner ++ ' ' :: name ++ ' ' :: d ++ tail := by
  have hmethod : '\n' ∉ if onInterface then " InterfaceMethod ".toList
      else " Method ".toList := by
    split <;> decide
  simp only [List.mem_append, List.mem_cons, not_or]
  exact ⟨⟨⟨⟨⟨hopcode, hmethod⟩, howner⟩, by decide, hname⟩, by decide, hd⟩, htail⟩

theorem break_notMem_invoke {c : Callee} (howner : '\n' ∉ c.owner) (hname : '\n' ∉ c.name)
    (hdescriptor : '\n' ∉ c.descriptor.text) : '\n' ∉ (invoke c).text := by
  refine break_notMem_call c.onInterface ?_ howner hname hdescriptor ?_
  · cases c.kind <;> decide
  · split
    · exact List.not_mem_cons_of_ne_of_not_mem (by decide) (isWord_decimal _).2.break_notMem
    · exact List.not_mem_nil

end Instruction

namespace Pattern

open Instruction

theorem Emits.break_notMem {l : Layout} (hl : l.BlankFree) {args : List Argument}
    (hargs : ∀ a ∈ args, WordOf NotBreak a.type.text) {returnType : Descriptor}
    (hreturn : WordOf NotBreak returnType.text) {pattern : Pattern} {before : List Instruction}
    {exit : Instruction} (h : Emits l args returnType pattern before exit) :
    ∀ i ∈ before ++ [exit], '\n' ∉ i.text := by
  have hexit : '\n' ∉ exit.text := by
    cases h <;> exact HasWords.break_notMem trivial
  have hempty : '\n' ∉ (emptyInstance l).text := (hasWords_emptyInstance hl).break_notMem
  have hname {d : Descriptor} (hd : WordOf NotBreak d.text) {c : Text}
      (hc : d.className? = some c) : '\n' ∉ c :=
    forall_notBreak_iff.1 (Descriptor.forall_mem_of_className? hd.2 hc)
  have hloads (args : List Argument) : ∀ i ∈ args.map Argument.load, '\n' ∉ i.text :=
    List.forall_mem_map.2 fun a _ => HasWords.break_notMem trivial
  have hsupplied (s : Supplied) {c : Text} (hc : '\n' ∉ c) :
      ∀ i ∈ args.map Argument.loadReference ++ [s.call, .cast c], '\n' ∉ i.text := by
    refine List.forall_mem_append.2
      ⟨List.forall_mem_map.2 fun a _ => HasWords.break_notMem trivial, ?_⟩
    exact List.forall_mem_cons.2 ⟨s.hasWords_call.break_notMem,
      List.forall_mem_singleton.2 (break_notMem_cast hc)⟩
  refine List.forall_mem_append.2 ⟨?_, List.forall_mem_singleton.2 hexit⟩
  cases h with
  | throwNotPresent =>
    refine List.forall_mem_singleton.2 (HasWords.break_notMem ?_)
    exact hasWords_invoke _ _ (hl.qualify (hl _ (by simp [Layout.texts])))
      (hl _ (by simp [Layout.texts])) (List.forall_mem_nil _) (by decide)
  | emptyOf hc =>
    have hmethod : '\n' ∉ "empty".toList := by decide
    refine List.forall_mem_singleton.2 (break_notMem_invoke (hname hreturn hc) hmethod ?_)
    exact forall_notBreak_iff.1
      (MethodDescriptor.forall_mem_text notBreak_of_isInk (List.forall_mem_nil _) hreturn)
  | @throwSupplied s => exact hsupplied s (by decide)
  | returnArgument _ | orElse _ | primitiveOrElse _ =>
    exact List.forall_mem_singleton.2 (HasWords.break_notMem trivial)
  | @orGet s c hc | @orElseGet s c hc => exact hsupplied s (hname hreturn hc)
  | filter hc =>
    refine List.forall_mem_cons.2 ⟨hempty, ?_⟩
    split_ifs
    · exact List.forall_mem_nil _
    · exact List.forall_mem_singleton.2 (break_notMem_cast (hname hreturn hc))
  | test => exact List.forall_mem_singleton.2 (HasWords.break_notMem trivial)
  | @ifSome shape =>
    have hmethod : '\n' ∉ "ifNone".toList := by decide
    have hvoid : IsWord Descriptor.void.text := by decide
    rw [forwarding]
    split_ifs
    · exact List.forall_mem_nil _
    · refine List.forall_mem_cons.2 ⟨HasWords.break_notMem trivial, List.forall_mem_append.2
        ⟨hloads _, List.forall_mem_singleton.2 ?_⟩⟩
      refine break_notMem_invoke hl.emptyClassName.break_notMem hmethod ?_
      exact forall_notBreak_iff.1 (MethodDescriptor.forall_mem_text notBreak_of_isInk
        (List.forall_mem_map.2 fun a ha => hargs a (forwarded_subset shape args ha))
        (hvoid.wordOf notBreak_of_isInk))
  | @primitiveOrElseGet p s a owner ha howner =>
    obtain ⟨hmethod, hparams, hresult⟩ := s.isWord_accessor p
    refine List.forall_mem_append.2 ⟨hloads _, List.forall_mem_singleton.2 ?_⟩
    refine break_notMem_invoke (hname (hargs a (List.mem_of_head? ha)) howner)
      hmethod.break_notMem (forall_notBreak_iff.1 ?_)
    exact MethodDescriptor.forall_mem_text notBreak_of_isInk
      (fun d hd => (hparams d hd).wordOf notBreak_of_isInk)
      (hresult ▸ p.isWord_descriptor.wordOf notBreak_of_isInk)
  | mapNarrowed hc =>
    exact List.forall_mem_cons.2 ⟨hempty,
      List.forall_mem_singleton.2 (break_notMem_cast (hname hreturn hc))⟩
  | mapEmpty => exact List.forall_mem_singleton.2 hempty

end Pattern

/-! ### Bodies -/

theorem break_notMem_tableLines {table : Table} {entries : List Text}
    (h : ∀ e ∈ entries, '\n' ∉ e) : ∀ line ∈ tableLines table entries, '\n' ∉ line := by
  have htable : '\n' ∉ tableIndent := by decide
  have hentry : '\n' ∉ entryIndent := by decide
  have hopener : '\n' ∉ table.opener := (isWord_opener table).2.break_notMem
  have hterminator : '\n' ∉ table.terminator := by cases table <;> decide
  have happend {s t : Text} (hs : '\n' ∉ s) (ht : '\n' ∉ t) : '\n' ∉ s ++ t := by
    rw [List.mem_append]
    exact not_or.2 ⟨hs, ht⟩
  rw [tableLines, List.cons_append]
  simp only [List.forall_mem_cons, List.forall_mem_append, List.forall_mem_map]
  exact ⟨happend htable hopener, fun e he => happend hentry (h e he),
    happend htable hterminator, List.forall_mem_nil _⟩

theorem VariableEntry.break_notMem_printed {e : VariableEntry} (hname : '\n' ∉ e.name)
    (hdescriptor : '\n' ∉ e.descriptor) (hstart : '\n' ∉ e.start) (hstop : '\n' ∉ e.stop) :
    '\n' ∉ e.printed := by
  have hindex : '\n' ∉ decimal e.index := (isWord_decimal _).2.break_notMem
  simp [printed, hindex, hname, hdescriptor, hstart, hstop]

theorem LabelledLine.break_notMem_printed {l : LabelledLine} (hlabel : '\n' ∉ l.label)
    (htext : '\n' ∉ l.text) : '\n' ∉ l.printed := by
  obtain ⟨k, hk⟩ := l.printed_eq
  rw [hk]
  simp [hlabel, htext, List.mem_replicate]

namespace Body

/-- No text in a body of these locals and instructions has a break. -/
structure Unbroken (ls : List LocalVariable) (is : List Instruction) : Prop where
  instructions : ∀ i ∈ is, '\n' ∉ i.text
  locals : ∀ v ∈ ls, WordOf NotBreak v.name ∧ WordOf NotBreak v.type.text ∧
    ∀ g ∈ v.generic, WordOf NotBreak g.text

theorem of_mem_linesFrom {offset : Nat} {is : List Instruction} {l : LabelledLine}
    (h : l ∈ linesFrom offset is) :
    (∃ n, l.label = label n) ∧ (l.text = [] ∨ ∃ i ∈ is, l.text = i.text) := by
  induction is generalizing offset with
  | nil =>
    rw [List.mem_singleton.1 h]
    exact ⟨⟨offset, rfl⟩, Or.inl rfl⟩
  | cons i is ih =>
    rcases List.mem_cons.1 h with rfl | h
    · exact ⟨⟨offset, rfl⟩, Or.inr ⟨i, List.mem_cons_self, rfl⟩⟩
    · obtain ⟨hlabel, htext⟩ := ih h
      exact ⟨hlabel, htext.imp_right fun ⟨j, hj, he⟩ => ⟨j, List.mem_cons_of_mem _ hj, he⟩⟩

section

variable {ls : List LocalVariable} {is : List Instruction}

theorem Unbroken.instruction (h : Unbroken ls is) {l : LabelledLine} (hl : l ∈ linesFrom 0 is) :
    '\n' ∉ l.printed := by
  obtain ⟨⟨n, hlabel⟩, htext⟩ := of_mem_linesFrom hl
  refine LabelledLine.break_notMem_printed (hlabel ▸ (isWord_label n).2.break_notMem) ?_
  rcases htext with htext | ⟨i, hi, htext⟩
  · rw [htext]
    exact List.not_mem_nil
  · rw [htext]
    exact h.instructions i hi

theorem Unbroken.entry (h : Unbroken ls is) {slot : Nat} {v : LocalVariable} (hv : v ∈ ls)
    {type : Descriptor} (htype : '\n' ∉ type.text) :
    '\n' ∉ ((of ls is).entry slot v.name type).printed :=
  VariableEntry.break_notMem_printed (forall_notBreak_iff.1 (h.locals v hv).1.2) htype
    (isWord_label _).2.break_notMem (isWord_label _).2.break_notMem

theorem Unbroken.lines_layOut (h : Unbroken ls is) (line : Nat) :
    ∀ l ∈ ((of ls is).layOut (some line)).lines, '\n' ∉ l := by
  have hindent : '\n' ∉ attributeIndent := by decide
  have hcode : '\n' ∉ attributeIndent ++ ".code ".toList := by decide
  have hsizes := isPhrase_join (by simp [Code.sizeWords])
    (Code.isWord_sizeWords ((of ls is).layOut (some line)).stack
      ((of ls is).layOut (some line)).locals)
  have hnumber : '\n' ∉ LineEntry.printed ⟨label 0, line⟩ := by
    rw [LineEntry.printed_eq_join]
    refine break_notMem_join fun w hw => ?_
    rcases List.mem_pair.1 hw with rfl | rfl
    · exact (isWord_label 0).2.break_notMem
    · exact (isWord_decimal line).2.break_notMem
  have hvariables : ∀ e ∈ (of ls is).variableEntries, '\n' ∉ e.printed := by
    intro e he
    obtain ⟨⟨slot, v⟩, hv, rfl⟩ := List.mem_map.1 he
    have hlocal := mem_of_mem_placedFrom hv
    exact h.entry hlocal (forall_notBreak_iff.1 (h.locals v hlocal).2.1.2)
  have htypes : ∀ e ∈ (of ls is).variableTypeEntries, '\n' ∉ e.printed := by
    intro e he
    obtain ⟨⟨slot, v⟩, hv, hgeneric⟩ := List.mem_filterMap.1 he
    obtain ⟨g, hg, rfl⟩ := Option.map_eq_some_iff.1 hgeneric
    have hlocal := mem_of_mem_placedFrom hv
    exact h.entry hlocal (forall_notBreak_iff.1 ((h.locals v hlocal).2.2 g hg).2)
  have hitems : ∀ i ∈ ((of ls is).layOut (some line)).items, ∀ l ∈ i.lines, '\n' ∉ l := by
    simp only [layOut, List.forall_mem_append]
    refine ⟨⟨⟨?_, ?_⟩, ?_⟩, ?_⟩
    · exact List.forall_mem_map.2 fun l hl => List.forall_mem_singleton.2 (h.instruction hl)
    · exact List.forall_mem_singleton.2
        (break_notMem_tableLines (List.forall_mem_singleton.2 hnumber))
    · split
      · exact List.forall_mem_nil _
      · exact List.forall_mem_singleton.2
          (break_notMem_tableLines (List.forall_mem_map.2 hvariables))
    · split
      · exact List.forall_mem_nil _
      · exact List.forall_mem_singleton.2
          (break_notMem_tableLines (List.forall_mem_map.2 htypes))
  rw [Code.lines_eq, ← List.append_assoc]
  simp only [List.forall_mem_cons, List.forall_mem_append, List.forall_mem_flatMap]
  exact ⟨(hsizes.isInkLine_append hcode).1, hitems,
    (Block.code.isPhrase_terminator.isInkLine_append hindent).1, List.forall_mem_nil _⟩

end

/-- Labels begin with a letter. -/
theorem head?_ink_of_label {s : Text} (n : Nat) : (ink (label n ++ s)).head? ≠ some '.' := by
  rw [head?_ink (s := label n ++ s) (c := 'L') rfl rfl]
  nofun

theorem closed_layOut (b : Body) (line : Nat) : Attribute.Closed (.code (b.layOut (some line))) := by
  have hnumber : CodeItem.Closed (.lineNumbers [⟨label 0, line⟩]) := by
    refine List.forall_mem_singleton.2 (trim_ne_of_ink ?_ rfl)
    rw [ink_append, ink_blank blank_entryIndent, List.nil_append]
    exact head?_ink_of_label 0
  show ∀ i ∈ (b.layOut (some line)).items, i.Closed
  simp only [layOut, List.forall_mem_append]
  refine ⟨⟨⟨List.forall_mem_map.2 fun l hl => ?_, List.forall_mem_singleton.2 hnumber⟩, ?_⟩, ?_⟩
  · obtain ⟨⟨n, hlabel⟩, -⟩ := of_mem_linesFrom hl
    obtain ⟨k, hk⟩ := l.printed_eq
    rw [CodeItem.Closed, hk, hlabel]
    exact head?_ink_of_label n
  · split
    · exact List.forall_mem_nil _
    · exact List.forall_mem_singleton.2 trivial
  · split
    · exact List.forall_mem_nil _
    · exact List.forall_mem_singleton.2 trivial

end Body

/-! ### Methods -/

theorem Method.break_notMem_header {m : Method} (hflags : ∀ w ∈ m.flags, IsWord w)
    (hname : IsWord m.name) (hdescriptor : '\n' ∉ m.descriptor) : '\n' ∉ m.header := by
  have hmethod : '\n' ∉ ".method ".toList := by decide
  have hcolon : '\n' ∉ " : ".toList := by decide
  have hwords : '\n' ∉ m.flags.flatMap (· ++ [' ']) := by
    refine forall_notBreak_iff.1 (List.forall_mem_flatMap.2 fun w hw => ?_)
    exact List.forall_mem_append.2 ⟨((hflags w hw).wordOf notBreak_of_isInk).2, by decide⟩
  change '\n' ∉ ".method ".toList ++ (_ ++ _ ++ " : ".toList ++ _)
  simp only [List.mem_append, not_or]
  exact ⟨hmethod, ⟨⟨hwords, hname.2.break_notMem⟩, hcolon⟩, hdescriptor⟩

namespace SignatureText

theorem break_notMem_text {s : SignatureText} (h : '\n' ∉ s.value) : '\n' ∉ s.text := by
  obtain ⟨value, quote⟩ := s
  cases quote with
  | none => exact h
  | some q =>
    have hq : '\n' ≠ q.char := by cases q <;> decide
    have hvalue : '\n' ∉ value := h
    simp [text_quoted, hq, hvalue]

end SignatureText

namespace Attribute

theorem break_notMem_signature {s : SignatureText} (h : '\n' ∉ s.value) :
    ∀ line ∈ (signature s).lines, '\n' ∉ line := by
  have hstart : '\n' ∉ attributeIndent ++ ".signature ".toList := by decide
  refine List.forall_mem_singleton.2 ?_
  rw [List.mem_append]
  exact not_or.2 ⟨hstart, SignatureText.break_notMem_text h⟩

theorem break_notMem_exceptions {names : List Text} (h : ∀ w ∈ names, IsWord w) :
    ∀ line ∈ (exceptions names).lines, '\n' ∉ line := by
  have hstart : '\n' ∉ attributeIndent ++ ".exceptions ".toList := by decide
  refine List.forall_mem_singleton.2 ?_
  rw [List.mem_append]
  exact not_or.2 ⟨hstart, break_notMem_join fun w hw => (h w hw).2.break_notMem⟩

end Attribute

theorem Bridge.closed_method (b : Bridge) : b.method.Closed := by
  intro a ha
  rcases List.mem_cons.1 ha with rfl | ha
  · exact b.body.closed_layOut b.line
  rcases List.mem_append.1 ha with ha | ha
  · split at ha
    · cases ha
    · rw [List.mem_singleton.1 ha]
      trivial
  · obtain ⟨s, -, rfl⟩ := Option.map_eq_some_iff.1 (Option.mem_toList.1 ha)
    trivial

namespace Declaration

variable {l : Layout} {t : Target} {d : Declaration} {pattern : Pattern} {b : Bridge}

theorem lines_body (hl : l.BlankFree) {descriptor : MethodDescriptor}
    (hparams : ∀ type ∈ descriptor.params, WordOf NotBreak type.text)
    (hreturn : WordOf NotBreak descriptor.returnType.text) {signature : Option MethodSignature}
    (hsignature : ∀ s ∈ signature, s.HasWords NotBreak) {b : Body}
    (h : d.body l pattern descriptor signature = .ok b) (line : Nat) :
    ∀ text ∈ (b.layOut (some line)).lines, '\n' ∉ text := by
  obtain ⟨names, thisGeneric, is, hnames, hlength, hthis, his, rfl⟩ := body_eq_ok.1 h
  have hargs : ∀ a ∈ Argument.ofParams descriptor.params, WordOf NotBreak a.type.text := by
    intro a ha
    refine hparams _ ?_
    rw [← Argument.types_ofParams descriptor.params]
    exact List.mem_map_of_mem ha
  have hcount := Argument.length_ofParams descriptor.params
  obtain ⟨before, exit, hemits, rfl⟩ := Pattern.exists_emits hnames (hlength.trans hcount.symm) his
  have hthisWord : IsWord thisGeneric.text := Descriptor.wordOf_of_parse hl.emptyThisGeneric hthis
  have hunbroken : Body.Unbroken (bodyLocals l thisGeneric names descriptor signature)
      (before ++ [exit]) :=
    ⟨hemits.break_notMem hl hargs hreturn, wordOf_of_mem_bodyLocals notBreak_of_isInk hl
      (hthisWord.wordOf notBreak_of_isInk) (Pattern.isWord_of_parameterNames? hnames).2 hparams
      hsignature⟩
  exact hunbroken.lines_layOut line

theorem HasWords.lines_bridge (hd : d.HasWords NotBreak) (ht : t.layout.BlankFree)
    {descriptor : MethodDescriptor} (hparams : ∀ type ∈ descriptor.params, WordOf NotBreak type.text)
    (hreturn : WordOf NotBreak descriptor.returnType.text) {signature : Option MethodSignature}
    (hsignature : ∀ s ∈ signature, s.HasWords NotBreak) {variant : Option Primitive}
    (h : d.bridge t pattern variant descriptor signature = .ok b) :
    ∀ line ∈ b.method.lines, '\n' ∉ line := by
  obtain ⟨body, hbody, rfl⟩ := bridge_eq_ok.1 h
  obtain ⟨hflags, hname⟩ := List.forall_mem_append.1 hd.headWords
  have hheader := Method.break_notMem_header
    (m := ⟨bridgeFlags (d.isCovariant t.layout) d.flags, d.name, descriptor.text, []⟩)
    (isWord_of_mem_bridgeFlags hflags) (List.forall_mem_singleton.1 hname) (forall_notBreak_iff.1
      (MethodDescriptor.forall_mem_text notBreak_of_isInk hparams hreturn))
  have hcode := lines_body ht hparams hreturn hsignature hbody t.line
  refine List.forall_mem_cons.2 ⟨hheader, List.forall_mem_append.2
    ⟨List.forall_mem_flatMap.2 fun a ha => ?_, List.forall_mem_singleton.2 (by decide)⟩⟩
  rcases List.mem_cons.1 ha with rfl | ha
  · exact hcode
  rcases List.mem_append.1 ha with ha | ha
  · split at ha
    · cases ha
    · rw [List.mem_singleton.1 ha]
      exact Attribute.break_notMem_exceptions (Pattern.isWord_of_mem_throws pattern)
  · obtain ⟨s, hs, rfl⟩ := Option.map_eq_some_iff.1 (Option.mem_toList.1 ha)
    have hwords := hsignature s (Option.filter_eq_some_iff.1 hs).1
    exact Attribute.break_notMem_signature
      (forall_notBreak_iff.1 (hwords.forall_mem_text notBreak_of_isInk))

theorem HasWords.lines_of_synthesize (hd : d.HasWords NotBreak) (ht : t.layout.BlankFree)
    {block : List Bridge} (h : d.synthesize t pattern = .ok block) (hb : b ∈ block) :
    ∀ line ∈ b.method.lines, '\n' ∉ line := by
  rcases exists_bridge_of_mem_synthesize h hb with
    ⟨s, p, descriptor, signature, hs, hdescriptor, hsignature, hbridge⟩ | hbridge
  · have hboxed : WordOf NotBreak p.boxedDescriptor.text :=
      p.named_boxedDescriptor.isWord.wordOf notBreak_of_isInk
    obtain ⟨hparams, hreturn⟩ :=
      forall_specializedDescriptor (P := fun d => WordOf NotBreak d.text) hdescriptor hboxed
    refine hd.lines_bridge ht (hparams hd.params) (hreturn hd.returnType) ?_ hbridge
    rintro _ ⟨⟩
    exact (hd.signature s hs).substitute notBreak_of_isInk hboxed hsignature
  · exact hd.lines_bridge ht hd.params hd.returnType hd.signature hbridge

end Declaration

theorem ClassFile.readable_of_read {t : Text} {c : ClassFile} (h : read t = .ok c) :
    c.Readable fun line => '\n' ∉ line :=
  readable_read h fun _ hline => break_notMem_of_mem_textLines hline

/-- The lines of bridges have no breaks, whatever the texts of the interfaces are. -/
theorem Catalog.lines_of_synthesize {l : Layout} (hl : l.BlankFree) {line : Nat}
    {interfaces : List ClassFile} (hinterfaces : ∀ c ∈ interfaces, ∃ t, ClassFile.read t = .ok c)
    {catalog : Catalog} (hcatalog : collect l interfaces = .ok catalog) {bridges : List Bridge}
    (h : synthesize ⟨l, line⟩ catalog = .ok bridges) :
    ∀ b ∈ bridges, ∀ line ∈ b.method.lines, '\n' ∉ line := by
  intro b hb
  obtain ⟨e, he, block, hblock, hmem⟩ := exists_of_mem_synthesize h hb
  obtain ⟨c, hc, origin, -, m, hm, -, hentry⟩ := exists_of_mem_collect hcatalog he
  obtain ⟨t, ht⟩ := hinterfaces c hc
  have hmethod : m.Readable fun line => '\n' ∉ line :=
    ClassFile.readable_of_read ht _ (ClassFile.mem_methods.1 hm)
  obtain ⟨d, hdeclares, ⟨-, hnone⟩ | ⟨pattern, -, hsome⟩⟩ := entryOf_eq_ok hentry
  · cases hnone
  · cases hsome
    have hsignatures : ∀ a ∈ m.attributes, ∀ s ∈ a.signature?, ∀ c ∈ s.value, NotBreak c := by
      intro a ha s hs
      have hreadable := hmethod.attributes a ha
      cases a with
      | signature s' =>
        cases hs
        exact forall_notBreak_iff.2 (SignatureText.Readable.breakFree hreadable)
      | _ => cases hs
    refine (hdeclares.hasWords notBreak_of_isInk hmethod.header ?_ hsignatures).lines_of_synthesize
      hl hblock hmem
    exact forall_notBreak_iff.2 hmethod.header.descriptor.breakFree

end ErasedBridges
