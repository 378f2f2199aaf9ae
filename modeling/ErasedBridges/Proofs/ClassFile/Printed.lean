import ErasedBridges.Proofs.ClassFile.Readable

/-!
# Reading printed lines

The printed lines of each readable part add that part to the state of the reader. `read_printed`
puts the lines of a class together: a readable class with at least one item is read from its
printed text if no header has a lone colon among its words.
-/

namespace ErasedBridges

open Text

variable {P : Text → Prop} {n : Nat} {items : List ClassItem} {m : Method}

theorem blank_tableIndent : Blank tableIndent := fun _ hc => by
  rw [List.eq_of_mem_replicate hc]
  rfl

theorem blank_attributeIndent : Blank attributeIndent := fun _ hc => by
  rw [List.eq_of_mem_replicate hc]
  rfl

/-- Indented text that begins with a dot and goes on with a phrase is found by trimming. -/
theorem trim_indented {indent s : Text} (start : Text) (hindent : Blank indent)
    (hstart : start.head? = some '.') (hs : IsPhrase s) :
    trim (indent ++ (start ++ s)) = start ++ s := by
  refine trim_blank_append hindent ⟨?_, endsInInk_append hs.ne_nil hs.trimmed.2⟩
  intro c hc
  rw [List.head?_append, hstart] at hc
  cases hc
  rfl

theorem trimEnd_phrase (start : Text) {s : Text} (hs : IsPhrase s) : trimEnd (start ++ s) = start ++ s :=
  trimEnd_of_endsInInk (endsInInk_append hs.ne_nil hs.trimmed.2)

/-! ### Tables -/

theorem words_terminator (table : Table) : words table.terminator = [".end".toList, table.name] := by
  cases table <;> rfl

theorem LineEntry.Readable.trim_ne {e : LineEntry} (h : e.Readable) (table : Table) :
    trim (entryIndent ++ e.printed) ≠ table.terminator := by
  intro ht
  have hw := words_trim (entryIndent ++ e.printed)
  rw [ht, words_terminator, h.words_printed] at hw
  have hname : table.name = decimal e.line := (List.cons.inj (List.cons.inj hw).2).1
  have hdigit : 'l' ∈ table.name := by cases table <;> decide
  rw [hname] at hdigit
  exact absurd (isDigit_of_mem_decimal hdigit) (by decide)

theorem VariableEntry.Readable.trim_ne {e : VariableEntry} (h : e.Readable) (table : Table) :
    trim (entryIndent ++ e.printed) ≠ table.terminator := by
  intro ht
  have hw := words_trim (entryIndent ++ e.printed)
  rw [ht, words_terminator, h.words_printed] at hw
  exact absurd (congrArg List.length hw) (by simp [wordsWith])

namespace ReaderState

theorem run_entries (n : Nat) (items : List ClassItem) (m : Method) (c : Code) {table : Table}
    {entries : List Text} (h : ∀ e ∈ entries, trim e ≠ table.terminator)
    (done : List NumberedLine) :
    ∃ numbered : List NumberedLine, numbered.map Prod.snd = entries ∧
      run n entries ⟨items, .table m c table done⟩ =
        .ok ⟨items, .table m c table (done ++ numbered)⟩ := by
  induction entries generalizing n done with
  | nil => exact ⟨[], rfl, by rw [List.append_nil]; rfl⟩
  | cons e entries ih =>
    obtain ⟨he, hes⟩ := List.forall_mem_cons.1 h
    obtain ⟨numbered, hmap, hrun⟩ := ih (n + 1) hes (done ++ [(n, e)])
    refine ⟨(n, e) :: numbered, by rw [List.map_cons, hmap], run_cons_eq_ok.2 ⟨_, .entry he, ?_⟩⟩
    rw [hrun, List.append_assoc, List.singleton_append]

/-- Tables are read in one way: `read` takes an entry and `make` the entries together. -/
theorem run_tableLines {α : Type} {table : Table} {read : Text → Except LineFault α}
    {printed : α → Text} {make : List α → CodeItem} {es : List α} {c : Code}
    (htable : ∀ entries, table.read entries = (readEntries read entries).map make)
    (hread : ∀ e ∈ es, read (entryIndent ++ printed e) = .ok e)
    (hentry : ∀ e ∈ es, trim (entryIndent ++ printed e) ≠ table.terminator) :
    run n (tableLines table (es.map printed)) ⟨items, .code m c⟩ =
      .ok ⟨items, .code m (c.addItem (make es))⟩ := by
  obtain ⟨numbered, hmap, hrun⟩ := run_entries (n + 1) items m c (List.forall_mem_map.2 hentry) []
  have hopen : Takes n (tableIndent ++ table.opener) ⟨items, .code m c⟩
      ⟨items, .table m c table []⟩ :=
    .opener (trim_blank_append blank_tableIndent (isWord_opener table).2.trimmed)
  have hend : trim (tableIndent ++ table.terminator) = table.terminator :=
    trim_blank_append blank_tableIndent (Block.table table).isPhrase_terminator.trimmed
  have hes : table.read numbered = .ok (make es) := by
    rw [htable]
    refine map_eq_ok.2 ⟨es, readEntries_eq_ok.2 ?_, rfl⟩
    rw [hmap, List.forall₂_map_left_iff, List.forall₂_same]
    exact hread
  rw [tableLines, List.map_map, List.cons_append, run_cons_eq_ok]
  refine ⟨_, hopen, run_append_eq_ok.2 ⟨_, hrun, ?_⟩⟩
  exact Takes.run (.tableEnd hend hes)

/-! ### Code -/

theorem run_codeItem {i : CodeItem} (h : i.Readable P) {c : Code} :
    run n i.lines ⟨items, .code m c⟩ = .ok ⟨items, .code m (c.addItem i)⟩ := by
  cases i with
  | instruction l => exact Takes.run (.instruction (LabelledLine.read?_printed h))
  | lineNumbers es =>
    exact run_tableLines (fun _ => rfl) (fun e he => LineEntry.read_printed (h e he))
      fun e he => (h e he).trim_ne _
  | localVariables es =>
    exact run_tableLines (fun _ => rfl) (fun e he => VariableEntry.read_printed (h e he))
      fun e he => (h e he).trim_ne _
  | localTypes es =>
    exact run_tableLines (fun _ => rfl) (fun e he => VariableEntry.read_printed (h e he))
      fun e he => (h e he).trim_ne _
  | raw line => exact Takes.run (.codeRaw h.2)

theorem run_code {c : Code} (h : c.Readable P) :
    run n c.lines ⟨items, .method m⟩ = .ok ⟨items, .method (m.addAttribute (.code c))⟩ := by
  have hwords := isPhrase_join (by simp [Code.sizeWords]) (Code.isWord_sizeWords c.stack c.locals)
  have hsizes : Takes n (attributeIndent ++ (".code ".toList ++
      join [' '] (Code.sizeWords (decimal c.stack) (decimal c.locals)))) ⟨items, .method m⟩
      ⟨items, .code m ⟨c.stack, c.locals, []⟩⟩ :=
    .sizes (trim_indented _ blank_attributeIndent rfl hwords) (Code.readSizes_join h.stack h.locals)
  have hitems := run_flatMap (fun is => ⟨items, .code m ⟨c.stack, c.locals, is⟩⟩)
    (fun i hi n done => run_codeItem (h.items i hi)) (n + 1) []
  have hend : trim (attributeIndent ++ Block.code.terminator) = Block.code.terminator :=
    trim_blank_append blank_attributeIndent Block.code.isPhrase_terminator.trimmed
  rw [Code.lines_eq, run_cons_eq_ok]
  exact ⟨_, hsizes, run_append_eq_ok.2 ⟨_, hitems, Takes.run (.codeEnd hend)⟩⟩

/-! ### Methods -/

theorem run_attribute {a : Attribute} (h : a.Readable P) :
    run n a.lines ⟨items, .method m⟩ = .ok ⟨items, .method (m.addAttribute a)⟩ := by
  cases a with
  | code c => exact run_code h
  | signature s =>
    have hs : s.Readable := h
    have htake : Takes n (attributeIndent ++ (".signature ".toList ++ s.text))
        ⟨items, .method m⟩ _ :=
      .methodSignature (trim_indented _ blank_attributeIndent rfl hs.isPhrase_text)
    rw [SignatureText.read_text hs] at htake
    rw [Attribute.lines, List.append_assoc]
    exact htake.run
  | exceptions names =>
    have htake : Takes n (attributeIndent ++ (".exceptions ".toList ++ join [' '] names))
        ⟨items, .method m⟩ _ :=
      .exceptions (trim_indented _ blank_attributeIndent rfl (isPhrase_join h.1 h.2))
    rw [words_join h.2] at htake
    rw [Attribute.lines, List.append_assoc]
    exact htake.run
  | raw line => exact Takes.run (.methodRaw h.2)

theorem run_method (h : m.Readable P) (hs : m.HeaderSplits) :
    run n m.lines ⟨items, .none⟩ = .ok ⟨items ++ [.method m], .none⟩ := by
  have hheader : Takes n m.header ⟨items, .none⟩ ⟨items, .method { m with attributes := [] }⟩ := by
    refine .header ?_ (Method.readHeader_printed h.header hs)
    rw [← Method.header_eq]
    exact trimEnd_of_endsInInk h.header.isInkLine_header.2
  have hattributes := run_flatMap
    (fun as => ⟨items, .method { m with attributes := as }⟩)
    (fun a ha n done => run_attribute (h.attributes a ha)) (n + 1) []
  have hend : trim Block.method.terminator = Block.method.terminator :=
    trim_of_trimmed Block.method.isPhrase_terminator.trimmed
  rw [Method.lines, run_cons_eq_ok]
  exact ⟨_, hheader, run_append_eq_ok.2 ⟨_, hattributes, Takes.run (.methodEnd hend)⟩⟩

/-! ### Classes -/

theorem run_classItem {i : ClassItem} (h : i.Readable P)
    (hs : ∀ m, i = .method m → m.HeaderSplits) :
    run n i.lines ⟨items, .none⟩ = .ok ⟨items ++ [i], .none⟩ := by
  cases i with
  | implements name =>
    have hname : IsPhrase name := h
    have htake : Takes n (".implements ".toList ++ name) ⟨items, .none⟩ _ :=
      .implements (trimEnd_phrase _ hname)
    rw [trim_of_trimmed hname.trimmed] at htake
    exact htake.run
  | signature s =>
    have hsig : s.Readable := h
    have htake : Takes n (".signature ".toList ++ s.text) ⟨items, .none⟩ _ :=
      .classSignature (trimEnd_phrase _ hsig.isPhrase_text)
    rw [SignatureText.read_text hsig] at htake
    exact htake.run
  | method m => exact run_method h (hs m rfl)
  | raw line => exact Takes.run (.classRaw h.2)

end ReaderState

/-- No break within the line, and no carriage return that would be taken for a part of one. -/
def Text.IsLine (s : Text) : Prop := '\n' ∉ s ∧ s.getLast? ≠ some '\r'

namespace ClassFile

theorem mem_methods {c : ClassFile} {m : Method} : m ∈ c.methods ↔ .method m ∈ c.items := by
  rw [methods, List.mem_filterMap]
  constructor
  · rintro ⟨i, hi, hmethod⟩
    cases i with
    | method m' => cases hmethod; exact hi
    | _ => cases hmethod
  · exact fun h => ⟨_, h, rfl⟩

theorem lines_ne_nil {c : ClassFile} (h : c.items ≠ []) : c.lines ≠ [] := by
  obtain ⟨i, is, hi⟩ := List.exists_cons_of_ne_nil h
  rw [lines, hi, List.flatMap_cons]
  cases i <;> simp [ClassItem.lines, Method.lines]

theorem textLines_printed {c : ClassFile} (h : ∀ l ∈ c.lines, IsLine l) (hne : c.lines ≠ []) :
    textLines c.printed = c.lines := by
  rw [textLines, printed, split_join (fun l hl => (h l hl).1) hne]
  exact (List.map_congr_left fun l hl => dropReturn_of_last_ne (h l hl).2).trans (List.map_id _)

theorem read_printed {c : ClassFile} (h : c.Readable IsLine)
    (hs : ∀ m ∈ c.methods, m.HeaderSplits) (hne : c.items ≠ []) : read c.printed = .ok c := by
  have hlines : ∀ l ∈ c.lines, IsLine l := h.lines fun s hs => ⟨hs.1, hs.2.last_ne⟩
  rw [read_eq_ok, textLines_printed hlines (lines_ne_nil hne)]
  refine ReaderState.run_flatMap (fun is => ⟨is, .none⟩) ?_ 1 []
  intro i hi n done
  refine ReaderState.run_classItem (h i hi) ?_
  rintro m rfl
  exact hs m (mem_methods.2 hi)

end ClassFile

end ErasedBridges
