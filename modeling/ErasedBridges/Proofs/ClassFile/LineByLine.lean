import ErasedBridges.Proofs.ClassFile.Printed

/-!
# Lines are kept one by one

`ReaderState.lines` are the lines that the printer has for what was read so far, and `pending` are
the table entries that were taken but not yet read. At all times the two together have the ink of
the lines taken, line by line. So no line is lost, doubled or moved, and a line that is kept as it
stands comes out at its own place.
-/

namespace ErasedBridges

open Text

def Text.SameInk (s t : Text) : Prop := ink s = ink t

theorem Text.forall₂_sameInk {ss ts : List Text} :
    List.Forall₂ SameInk ss ts ↔ ss.map ink = ts.map ink := by
  rw [← List.forall₂_eq_eq_eq, List.forall₂_map_left_iff, List.forall₂_map_right_iff]
  rfl

/-! ### The lines of a state -/

def Method.openLines (m : Method) : List Text := m.header :: m.attributes.flatMap Attribute.lines

def Code.openLines (c : Code) : List Text :=
  (attributeIndent ++ (".code ".toList ++
    join [' '] (Code.sizeWords (decimal c.stack) (decimal c.locals)))) ::
      c.items.flatMap CodeItem.lines

theorem Method.lines_eq_openLines (m : Method) :
    m.lines = m.openLines ++ [Block.method.terminator] := rfl

theorem Code.lines_eq_openLines (c : Code) :
    c.lines = c.openLines ++ [attributeIndent ++ Block.code.terminator] := c.lines_eq

theorem Method.openLines_addAttribute (m : Method) (a : Attribute) :
    (m.addAttribute a).openLines = m.openLines ++ a.lines := by
  have hheader : (m.addAttribute a).header = m.header := rfl
  have hattributes : (m.addAttribute a).attributes = m.attributes ++ [a] := rfl
  rw [openLines, openLines, hheader, hattributes, List.flatMap_append, List.flatMap_singleton,
    List.cons_append]

theorem Code.openLines_addItem (c : Code) (i : CodeItem) :
    (c.addItem i).openLines = c.openLines ++ i.lines := by
  simp [openLines, addItem]

namespace OpenBlock

def lines : OpenBlock → List Text
  | none => []
  | method m => m.openLines
  | code m c => m.openLines ++ c.openLines
  | table m c t _ => m.openLines ++ c.openLines ++ [tableIndent ++ t.opener]

/-- The entries that are read when their table closes. -/
def pending : OpenBlock → List Text
  | table _ _ _ entries => entries.map Prod.snd
  | _ => []

end OpenBlock

namespace ReaderState

def lines (st : ReaderState) : List Text := st.items.flatMap ClassItem.lines ++ st.block.lines

theorem lines_addItem (items : List ClassItem) (i : ClassItem) :
    lines ⟨items ++ [i], .none⟩ = lines ⟨items, .none⟩ ++ i.lines := by
  simp [lines, OpenBlock.lines]

theorem lines_addAttribute (items : List ClassItem) (m : Method) (a : Attribute) :
    lines ⟨items, .method (m.addAttribute a)⟩ = lines ⟨items, .method m⟩ ++ a.lines := by
  simp [lines, OpenBlock.lines, Method.openLines_addAttribute]

theorem lines_addCodeItem (items : List ClassItem) (m : Method) (c : Code) (i : CodeItem) :
    lines ⟨items, .code m (c.addItem i)⟩ = lines ⟨items, .code m c⟩ ++ i.lines := by
  simp [lines, OpenBlock.lines, Code.openLines_addItem]

end ReaderState

/-! ### The words that are read as numbers -/

def Code.numberWords (sizes : Text) : List Text :=
  (words sizes)[1]?.toList ++ (words sizes)[3]?.toList

def Table.numberWords (line : Text) : Table → List Text
  | lineNumbers => (words line)[1]?.toList
  | localVariables => (words line)[0]?.toList
  | localTypes => (words line)[0]?.toList

namespace OpenBlock

def numberWords (line : Text) : OpenBlock → List Text
  | none => []
  | method _ => (".code ".toList.isPrefixOf? (trim line)).toList.flatMap Code.numberWords
  | code _ _ => []
  | table _ _ t _ => if trim line = t.terminator then [] else t.numberWords line

end OpenBlock

theorem Code.mem_words_of_mem_numberWords {w sizes : Text} (h : w ∈ numberWords sizes) :
    w ∈ words sizes := by
  rcases List.mem_append.1 h with h | h
  · exact List.mem_of_getElem? (Option.mem_toList.1 h)
  · exact List.mem_of_getElem? (Option.mem_toList.1 h)

theorem Table.mem_words_of_mem_numberWords {w line : Text} {t : Table}
    (h : w ∈ t.numberWords line) : w ∈ words line := by
  cases t <;> exact List.mem_of_getElem? (Option.mem_toList.1 h)

theorem OpenBlock.mem_words_of_mem_numberWords {w line : Text} {b : OpenBlock}
    (h : w ∈ b.numberWords line) : w ∈ words line := by
  cases b with
  | none => cases h
  | method m =>
    obtain ⟨sizes, hsizes, hw⟩ := List.mem_flatMap.1 h
    have hline := isPrefixOf?_eq_some.1 (Option.mem_toList.1 hsizes)
    rw [← words_trim, hline, show ".code ".toList = ".code".toList ++ [' '] from rfl,
      List.append_assoc, List.singleton_append, words_append_cons rfl]
    exact List.mem_append_right _ (Code.mem_words_of_mem_numberWords hw)
  | code m c => cases h
  | table m c t entries =>
    rw [numberWords] at h
    split at h
    · cases h
    · exact Table.mem_words_of_mem_numberWords h

/-! ### Ink of printed lines -/

theorem Text.ink_join_words (s : Text) : ink (join [' '] (words s)) = ink s := by
  rw [ink_join fun w hw => isWord_of_mem_words hw, flatten_words]

theorem Method.ink_header {rest : Text} {m : Method} (h : readHeader rest = .ok m) :
    ink m.header = ink (".method ".toList ++ rest) := by
  obtain ⟨-, head, descriptor, hcut, hwords, hdescriptor⟩ := readHeader_eq_ok.1 h
  rw [header_eq, ← cut?_append hcut, ← hwords, hdescriptor]
  simp only [ink_append, ink_join_words, ink_trim, List.append_assoc]

theorem SignatureText.ink_read (s : Text) : ink (read s).text = ink s := by
  rw [text_read, ink_trim]

theorem LabelledLine.ink_printed {line : Text} {l : LabelledLine} (h : read? line = some l) :
    ink l.printed = ink line := by
  obtain ⟨first, rest, -, hcut, -, -, htext⟩ := read?_eq_some.1 h
  obtain ⟨k, hk⟩ := l.printed_eq
  have hspaces : ink (List.replicate k ' ') = [] := ink_blank fun c hc => by
    rw [List.eq_of_mem_replicate hc]
    rfl
  rw [hk, ← cut?_append hcut, htext, ← List.singleton_append]
  simp only [ink_append, hspaces, ink_trim, List.nil_append, List.append_assoc]

theorem LineEntry.ink_printed {line : Text} {e : LineEntry} (h : read line = .ok e)
    (hnumber : ∀ w ∈ Table.lineNumbers.numberWords line, IsCanonical w) :
    ink (entryIndent ++ e.printed) = ink line := by
  obtain ⟨number, hwords, hread⟩ := read_eq_ok.1 h
  have hdecimal : decimal e.line = number :=
    decimal_of_readDecimal? hread (hnumber number (by simp [Table.numberWords, hwords]))
  rw [← flatten_words, (readable_read h).words_printed, hdecimal, ← hwords, flatten_words]

theorem VariableEntry.ink_printed {line : Text} {e : VariableEntry} (h : read line = .ok e)
    (hnumber : ∀ w ∈ (words line)[0]?.toList, IsCanonical w) :
    ink (entryIndent ++ e.printed) = ink line := by
  obtain ⟨index, hwords, hread⟩ := read_eq_ok.1 h
  have hdecimal : decimal e.index = index :=
    decimal_of_readDecimal? hread (hnumber index (by simp [wordsWith, hwords]))
  rw [← flatten_words, (readable_read h).words_printed, hdecimal, ← hwords, flatten_words]

theorem Code.ink_sizes {rest : Text} {c : Code} (h : readSizes rest = .ok c)
    (hnumber : ∀ w ∈ Code.numberWords rest, IsCanonical w) :
    ink (join [' '] (Code.sizeWords (decimal c.stack) (decimal c.locals))) = ink rest := by
  obtain ⟨-, stack, locals, hwords, hstack, hlocals⟩ := readSizes_eq_ok.1 h
  have hs : decimal c.stack = stack := decimal_of_readDecimal? hstack
    (hnumber stack (by simp [numberWords, sizeWords, hwords]))
  have hl : decimal c.locals = locals := decimal_of_readDecimal? hlocals
    (hnumber locals (by simp [numberWords, sizeWords, hwords]))
  rw [hs, hl, ← hwords, ink_join_words]

/-! ### Lines taken and lines printed -/

theorem sameInk_entries {α : Type} {read : Text → Except LineFault α} {printed : α → Text}
    {Q : Text → Prop} {lines : List Text} {es : List α}
    (hread : ∀ {line e}, read line = .ok e → Q line → ink (entryIndent ++ printed e) = ink line)
    (h : List.Forall₂ (fun line e => read line = .ok e) lines es) (hlines : ∀ line ∈ lines, Q line) :
    List.Forall₂ SameInk ((es.map printed).map (entryIndent ++ ·)) lines := by
  induction h with
  | nil => exact .nil
  | cons he _ ih =>
    obtain ⟨hline, hlines⟩ := List.forall_mem_cons.1 hlines
    exact .cons (hread he hline) (ih hlines)

theorem readTable_lines {table : Table} {entries : List NumberedLine} {item : CodeItem}
    (h : table.read entries = .ok item)
    (hnumbers : ∀ line ∈ entries.map Prod.snd, ∀ w ∈ table.numberWords line, IsCanonical w) :
    ∃ printed, item.lines = tableLines table printed ∧
      List.Forall₂ SameInk (printed.map (entryIndent ++ ·)) (entries.map Prod.snd) := by
  cases table with
  | lineNumbers =>
    obtain ⟨es, hes, rfl⟩ := map_eq_ok.1 h
    exact ⟨_, rfl, sameInk_entries LineEntry.ink_printed (readEntries_eq_ok.1 hes) hnumbers⟩
  | localVariables =>
    obtain ⟨es, hes, rfl⟩ := map_eq_ok.1 h
    exact ⟨_, rfl, sameInk_entries VariableEntry.ink_printed (readEntries_eq_ok.1 hes) hnumbers⟩
  | localTypes =>
    obtain ⟨es, hes, rfl⟩ := map_eq_ok.1 h
    exact ⟨_, rfl, sameInk_entries VariableEntry.ink_printed (readEntries_eq_ok.1 hes) hnumbers⟩

namespace OpenBlock

/-- The numbers of the pending entries are written as they print. -/
def PendingCanonical : OpenBlock → Prop
  | table _ _ t entries =>
    ∀ line ∈ entries.map Prod.snd, ∀ w ∈ t.numberWords line, IsCanonical w
  | _ => True

end OpenBlock

namespace ReaderState

theorem Takes.pendingCanonical {n : Nat} {line : Text} {st st' : ReaderState}
    (h : Takes n line st st') (hst : st.block.PendingCanonical)
    (hnumbers : ∀ w ∈ st.block.numberWords line, IsCanonical w) : st'.block.PendingCanonical := by
  cases h with
  | opener => exact List.forall_mem_nil _
  | entry entry =>
    rw [OpenBlock.numberWords, if_neg entry] at hnumbers
    rw [OpenBlock.PendingCanonical, List.map_append]
    exact List.forall_mem_append.2 ⟨hst, List.forall_mem_singleton.2 hnumbers⟩
  | _ => trivial

/-- What one line adds to the printed lines has the ink of the lines that it settles. -/
theorem Takes.lines {n : Nat} {line : Text} {st st' : ReaderState} (h : Takes n line st st')
    (hst : st.block.PendingCanonical) (hnumbers : ∀ w ∈ st.block.numberWords line, IsCanonical w) :
    ∃ added, st'.lines = st.lines ++ added ∧
      List.Forall₂ SameInk (added ++ st'.block.pending) (st.block.pending ++ [line]) := by
  have hend : ink (trimEnd line) = ink line := ink_trimEnd line
  have hends : ink (trim line) = ink line := ink_trim line
  have hattribute : ink attributeIndent = [] := ink_blank blank_attributeIndent
  have htable : ink tableIndent = [] := ink_blank blank_tableIndent
  cases h with
  | @header items rest m start read =>
    refine ⟨[m.header], ?_, .cons ?_ .nil⟩
    · simp [ReaderState.lines, OpenBlock.lines, Method.openLines,
        (Method.readHeader_eq_ok.1 read).1]
    · rw [SameInk, Method.ink_header read, ← start, hend]
  | implements start =>
    refine ⟨_, lines_addItem _ _, .cons ?_ .nil⟩
    rw [SameInk, ink_append, ink_trim, ← ink_append, ← start, hend]
  | classSignature start =>
    refine ⟨_, lines_addItem _ _, .cons ?_ .nil⟩
    rw [SameInk, ink_append, SignatureText.ink_read, ← ink_append, ← start, hend]
  | classRaw => exact ⟨_, lines_addItem _ _, .cons rfl .nil⟩
  | methodEnd terminator =>
    refine ⟨[Block.method.terminator], ?_, .cons ?_ .nil⟩
    · simp [ReaderState.lines, OpenBlock.lines, ClassItem.lines, Method.lines_eq_openLines]
    · rw [SameInk, ← terminator, hends]
  | @sizes items m rest c start read =>
    refine ⟨c.openLines, ?_, ?_⟩
    · simp [ReaderState.lines, OpenBlock.lines]
    · rw [Code.openLines, (Code.readSizes_eq_ok.1 read).1]
      refine .cons ?_ .nil
      have hrest : ∀ w ∈ Code.numberWords rest, IsCanonical w := by
        simpa [OpenBlock.numberWords, start, isPrefixOf?_append] using hnumbers
      rw [SameInk, ink_append, hattribute, ink_append, Code.ink_sizes read hrest, ← ink_append,
        ← start, hends, List.nil_append]
  | methodSignature start =>
    refine ⟨_, lines_addAttribute _ _ _, .cons ?_ .nil⟩
    rw [SameInk, ink_append, SignatureText.ink_read, ← ink_append, List.append_assoc, ← start,
      ink_append, hattribute, hends, List.nil_append]
  | exceptions start =>
    refine ⟨_, lines_addAttribute _ _ _, .cons ?_ .nil⟩
    rw [SameInk, ink_append, ink_join_words, ← ink_append, List.append_assoc, ← start,
      ink_append, hattribute, hends, List.nil_append]
  | methodRaw => exact ⟨_, lines_addAttribute _ _ _, .cons rfl .nil⟩
  | codeEnd terminator =>
    refine ⟨[attributeIndent ++ Block.code.terminator], ?_, .cons ?_ .nil⟩
    · simp [ReaderState.lines, OpenBlock.lines, Method.openLines_addAttribute, Attribute.lines,
        Code.lines_eq_openLines]
    · rw [SameInk, ink_append, hattribute, ← terminator, hends, List.nil_append]
  | @opener items m c table opener =>
    refine ⟨[tableIndent ++ table.opener], ?_, .cons ?_ .nil⟩
    · simp [ReaderState.lines, OpenBlock.lines]
    · rw [SameInk, ink_append, htable, ← opener, hends, List.nil_append]
  | instruction read =>
    exact ⟨_, lines_addCodeItem _ _ _ _, .cons (LabelledLine.ink_printed read) .nil⟩
  | codeRaw => exact ⟨_, lines_addCodeItem _ _ _ _, .cons rfl .nil⟩
  | @tableEnd items m c table entries item terminator read =>
    obtain ⟨printed, hlines, hink⟩ := readTable_lines read hst
    refine ⟨printed.map (entryIndent ++ ·) ++ [tableIndent ++ table.terminator], ?_, ?_⟩
    · rw [lines_addCodeItem, hlines]
      simp [ReaderState.lines, OpenBlock.lines, tableLines]
    · have hpending : (OpenBlock.code m (c.addItem item)).pending = [] := rfl
      rw [hpending, List.append_nil]
      refine List.rel_append hink (.cons ?_ .nil)
      rw [SameInk, ink_append, htable, ← terminator, hends, List.nil_append]
  | entry =>
    refine ⟨[], (List.append_nil _).symm, ?_⟩
    rw [OpenBlock.pending, OpenBlock.pending, List.map_append]
    exact List.forall₂_same.2 fun _ _ => rfl

/-- The state after `r` is added as it stands to the innermost block that is open. -/
def addRaw? (r : Text) (st : ReaderState) : Option ReaderState :=
  match st.block with
  | .none => some (st.addItem (.raw r))
  | .method m => some { st with block := .method (m.addAttribute (.raw r)) }
  | .code m c => some { st with block := .code m (c.addItem (.raw r)) }
  | .table .. => none

theorem Takes.lines_of_addRaw? {n : Nat} {line r : Text} {st st' : ReaderState}
    (h : Takes n line st st') (hraw : st.addRaw? r = some st') :
    st.block.pending = [] ∧ st'.lines = st.lines ++ [line] := by
  cases h with
  | classRaw => exact ⟨rfl, lines_addItem _ _⟩
  | methodRaw => exact ⟨rfl, lines_addAttribute _ _ _⟩
  | codeRaw => exact ⟨rfl, lines_addCodeItem _ _ _ _⟩
  | _ => simp [addRaw?, addItem, Method.addAttribute, Code.addItem] at hraw

end ReaderState

namespace ClassFile

/-- The words of `t` that are read as numbers have neither a plus sign nor leading zeros. -/
def HasCanonicalNumbers (t : Text) : Prop :=
  ∀ done line st, Meets t done line st → ∀ w ∈ st.block.numberWords line, IsCanonical w

theorem hasCanonicalNumbers_of_words {t : Text}
    (h : ∀ line ∈ textLines t, ∀ w ∈ words line, IsCanonical w) : HasCanonicalNumbers t := by
  intro done line st hmeets w hw
  exact h line (hmeets.lines.subset (by simp)) w (OpenBlock.mem_words_of_mem_numberWords hw)

/-- The `i`-th line of `t` is kept as it stands: as an item, an attribute or a line of code. -/
def BecomesRaw (t : Text) (i : Nat) : Prop :=
  ∃ done line st st' r, Meets t done line st ∧ done.length = i ∧
    st.step (i + 1) line = .ok st' ∧ st.addRaw? r = some st'

/-- What is known of the printed lines after the lines `done` of `t`. -/
structure Accounts (t : Text) (done : List Text) (st : ReaderState) : Prop where
  pending : st.block.PendingCanonical
  lines : List.Forall₂ SameInk (st.lines ++ st.block.pending) done
  raw : ∀ i line, done[i]? = some line → BecomesRaw t i → st.lines[i]? = some line

theorem accounts_initial (t : Text) : Accounts t [] .initial := ⟨trivial, .nil, nofun⟩

theorem Accounts.step {t line : Text} {done : List Text} {st st' : ReaderState}
    (hst : Accounts t done st) (hmeets : Meets t done line st)
    (htakes : ReaderState.Takes (done.length + 1) line st st')
    (hnumbers : ∀ w ∈ st.block.numberWords line, IsCanonical w) :
    Accounts t (done ++ [line]) st' := by
  obtain ⟨added, hlines, hadded⟩ := htakes.lines hst.pending hnumbers
  refine ⟨htakes.pendingCanonical hst.pending hnumbers, ?_, ?_⟩
  · have hdone := forall₂_sameInk.1 hst.lines
    have hnew := forall₂_sameInk.1 hadded
    rw [forall₂_sameInk, hlines, List.append_assoc, List.map_append, hnew, List.map_append,
      ← List.append_assoc, ← List.map_append, hdone, ← List.map_append]
  · intro i kept hkept hraw
    rcases Nat.lt_or_ge i done.length with hi | hi
    · rw [List.getElem?_append_left hi] at hkept
      have hbefore := hst.raw i kept hkept hraw
      rw [hlines, List.getElem?_append_left (List.getElem?_eq_some_iff.1 hbefore).1, hbefore]
    · obtain ⟨hlt, -⟩ := List.getElem?_eq_some_iff.1 hkept
      obtain rfl : i = done.length := by simp at hlt; omega
      obtain rfl : line = kept := by simpa using hkept
      obtain ⟨done', line', st₁, st₂, r, hmeets', hlength, hstep, hadd⟩ := hraw
      obtain ⟨rfl, rfl, rfl⟩ := hmeets'.unique hmeets hlength
      have hsame := hstep.symm.trans (ReaderState.step_eq_ok.2 htakes)
      cases hsame
      obtain ⟨hpending, hkeeps⟩ := htakes.lines_of_addRaw? hadd
      have hcount := hst.lines.length_eq
      rw [hpending, List.append_nil] at hcount
      rw [hkeeps, ← hcount, List.getElem?_concat_length]

/-- The printed text has the lines of the text that was read: as many, each with the same ink in
the same place, and a line that was kept is kept to the letter. -/
theorem printed_lines_of_read {t : Text} {c : ClassFile} (h : read t = .ok c)
    (hnumbers : HasCanonicalNumbers t) :
    (split (· == '\n') c.printed).length = (split (· == '\n') t).length ∧
      ∀ i printed source, (split (· == '\n') c.printed)[i]? = some printed →
        (split (· == '\n') t)[i]? = some source →
          ink printed = ink source ∧ (BecomesRaw t i → printed = dropReturn source) := by
  have hall : Accounts t (textLines t) ⟨c.items, .none⟩ :=
    read_induction (accounts_initial t)
      (fun done line st st' hmeets htakes hst =>
        hst.step hmeets htakes (hnumbers done line st hmeets)) h
  have hstate : ReaderState.lines ⟨c.items, .none⟩ = c.lines := List.append_nil _
  have hlines : List.Forall₂ SameInk (ReaderState.lines ⟨c.items, .none⟩ ++ []) (textLines t) :=
    hall.lines
  rw [hstate, List.append_nil] at hlines
  have hbreak : ∀ line ∈ c.lines, '\n' ∉ line :=
    (readable_read h fun line hline => break_notMem_of_mem_textLines hline).lines fun s hs => hs.1
  rw [printed, split_join hbreak (lines_ne_nil (items_ne_nil_of_read h))]
  refine ⟨by rw [hlines.length_eq, textLines, List.length_map], ?_⟩
  intro i printed source hprinted hsource
  have htext : (textLines t)[i]? = some (dropReturn source) := by
    rw [textLines, List.getElem?_map, hsource]
    rfl
  constructor
  · have hink := congrArg (·[i]?) (forall₂_sameInk.1 hlines)
    simp only [List.getElem?_map, hprinted, htext, Option.map_some, Option.some.injEq] at hink
    rw [hink, ink_dropReturn]
  · intro hraw
    have hkept := hall.raw i _ htext hraw
    rw [hstate, hprinted] at hkept
    exact Option.some.inj hkept

/-- Two lines of this text are kept: the third, with its blanks, and the seventh. -/
def keptText : Text :=
  join ['\n'] [".implements  lib/Source ".toList, ".method get : ()I".toList, "\t.kept  ".toList,
    " .code stack 1  locals 0".toList, " .linenumbertable".toList, "L0   12".toList,
    ".end linenumbertable\r".toList, "; kept \r".toList, ".end code".toList,
    ".end method".toList]

def keptClass : ClassFile :=
  ⟨[.implements "lib/Source".toList,
    .method ⟨[], "get".toList, "()I".toList,
      [.raw "\t.kept  ".toList,
        .code ⟨1, 0, [.lineNumbers [⟨"L0".toList, 12⟩], .raw "; kept ".toList]⟩]⟩]⟩

theorem printed_lines_keptText : read keptText = .ok keptClass ∧ HasCanonicalNumbers keptText ∧
    BecomesRaw keptText 2 ∧ (split (· == '\n') keptClass.printed).length = 10 ∧
      (split (· == '\n') keptClass.printed)[2]? = some "\t.kept  ".toList := by
  have hread : read keptText = .ok keptClass := by decide +kernel
  have hwords : ∀ line ∈ textLines keptText, ∀ w ∈ words line, IsCanonical w := by decide +kernel
  have hnumbers := hasCanonicalNumbers_of_words hwords
  have hraw : BecomesRaw keptText 2 := by
    refine ⟨[".implements  lib/Source ".toList, ".method get : ()I".toList], "\t.kept  ".toList,
      ⟨[.implements "lib/Source".toList], .method ⟨[], "get".toList, "()I".toList, []⟩⟩, _,
      "\t.kept  ".toList, ⟨?_, ?_⟩, rfl, ?_, rfl⟩
    · decide +kernel
    · decide +kernel
    · decide +kernel
  have hlines := printed_lines_of_read hread hnumbers
  have hlength : (split (· == '\n') keptClass.printed).length = 10 :=
    hlines.1.trans (by decide +kernel)
  have hsource : (split (· == '\n') keptText)[2]? = some "\t.kept  ".toList := by decide +kernel
  have hprinted := List.getElem?_eq_getElem
    (show 2 < (split (· == '\n') keptClass.printed).length by omega)
  refine ⟨hread, hnumbers, hraw, hlength, ?_⟩
  rw [hprinted, (hlines.2 2 _ _ hprinted hsource).2 hraw]
  rfl

end ClassFile

end ErasedBridges
