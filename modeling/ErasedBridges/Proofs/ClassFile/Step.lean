import ErasedBridges.Proofs.ClassFile.Header

/-!
# Steps of the reader

`Takes n line st st'` lists what one line can do to the state of the reader. The reader does
exactly that, so later proofs about reading are by cases on it, and proofs about printed lines
name the case that takes the line.
-/

namespace ErasedBridges

open Text

theorem atLine_eq_ok {α : Type} {n : Nat} {x : Except LineFault α} {a : α} :
    atLine n x = .ok a ↔ x = .ok a := by
  cases x with
  | error e => exact ⟨nofun, nofun⟩
  | ok b => rw [atLine, Except.ok.injEq, Except.ok.injEq]

/-! ### Lines that are kept -/

structure KeptInClass (line : Text) : Prop where
  header : ".method ".toList.isPrefixOf? (trimEnd line) = none
  implements : ".implements ".toList.isPrefixOf? (trimEnd line) = none
  signature : ".signature ".toList.isPrefixOf? (trimEnd line) = none

structure KeptInMethod (line : Text) : Prop where
  terminator : trim line ≠ Block.method.terminator
  sizes : ".code ".toList.isPrefixOf? (trim line) = none
  signature : ".signature ".toList.isPrefixOf? (trim line) = none
  exceptions : ".exceptions ".toList.isPrefixOf? (trim line) = none

structure KeptInCode (line : Text) : Prop where
  terminator : trim line ≠ Block.code.terminator
  opener : Table.ofOpener? (trim line) = none
  label : LabelledLine.read? line = none

namespace ReaderState

inductive Takes (n : Nat) (line : Text) : ReaderState → ReaderState → Prop where
  | header {items : List ClassItem} {rest : Text} {m : Method}
      (start : trimEnd line = ".method ".toList ++ rest) (read : Method.readHeader rest = .ok m) :
      Takes n line ⟨items, .none⟩ ⟨items, .method m⟩
  | implements {items : List ClassItem} {rest : Text}
      (start : trimEnd line = ".implements ".toList ++ rest) :
      Takes n line ⟨items, .none⟩ ⟨items ++ [.implements (trim rest)], .none⟩
  | classSignature {items : List ClassItem} {rest : Text}
      (start : trimEnd line = ".signature ".toList ++ rest) :
      Takes n line ⟨items, .none⟩ ⟨items ++ [.signature (.read rest)], .none⟩
  | classRaw {items : List ClassItem} (kept : KeptInClass line) :
      Takes n line ⟨items, .none⟩ ⟨items ++ [.raw line], .none⟩
  | methodEnd {items : List ClassItem} {m : Method}
      (terminator : trim line = Block.method.terminator) :
      Takes n line ⟨items, .method m⟩ ⟨items ++ [.method m], .none⟩
  | sizes {items : List ClassItem} {m : Method} {rest : Text} {c : Code}
      (start : trim line = ".code ".toList ++ rest) (read : Code.readSizes rest = .ok c) :
      Takes n line ⟨items, .method m⟩ ⟨items, .code m c⟩
  | methodSignature {items : List ClassItem} {m : Method} {rest : Text}
      (start : trim line = ".signature ".toList ++ rest) :
      Takes n line ⟨items, .method m⟩ ⟨items, .method (m.addAttribute (.signature (.read rest)))⟩
  | exceptions {items : List ClassItem} {m : Method} {rest : Text}
      (start : trim line = ".exceptions ".toList ++ rest) :
      Takes n line ⟨items, .method m⟩ ⟨items, .method (m.addAttribute (.exceptions (words rest)))⟩
  | methodRaw {items : List ClassItem} {m : Method} (kept : KeptInMethod line) :
      Takes n line ⟨items, .method m⟩ ⟨items, .method (m.addAttribute (.raw line))⟩
  | codeEnd {items : List ClassItem} {m : Method} {c : Code}
      (terminator : trim line = Block.code.terminator) :
      Takes n line ⟨items, .code m c⟩ ⟨items, .method (m.addAttribute (.code c))⟩
  | opener {items : List ClassItem} {m : Method} {c : Code} {table : Table}
      (opener : trim line = table.opener) :
      Takes n line ⟨items, .code m c⟩ ⟨items, .table m c table []⟩
  | instruction {items : List ClassItem} {m : Method} {c : Code} {l : LabelledLine}
      (read : LabelledLine.read? line = some l) :
      Takes n line ⟨items, .code m c⟩ ⟨items, .code m (c.addItem (.instruction l))⟩
  | codeRaw {items : List ClassItem} {m : Method} {c : Code} (kept : KeptInCode line) :
      Takes n line ⟨items, .code m c⟩ ⟨items, .code m (c.addItem (.raw line))⟩
  | tableEnd {items : List ClassItem} {m : Method} {c : Code} {table : Table}
      {entries : List NumberedLine} {item : CodeItem}
      (terminator : trim line = table.terminator) (read : table.read entries = .ok item) :
      Takes n line ⟨items, .table m c table entries⟩ ⟨items, .code m (c.addItem item)⟩
  | entry {items : List ClassItem} {m : Method} {c : Code} {table : Table}
      {entries : List NumberedLine} (entry : trim line ≠ table.terminator) :
      Takes n line ⟨items, .table m c table entries⟩
        ⟨items, .table m c table (entries ++ [(n, line)])⟩

theorem classLine_eq_ok {n : Nat} {line : Text} {items : List ClassItem} {st' : ReaderState} :
    classLine n line ⟨items, .none⟩ = .ok st' ↔ Takes n line ⟨items, .none⟩ st' := by
  constructor
  · intro h
    dsimp only [classLine] at h
    split at h
    · next rest hm =>
      obtain ⟨m, hread, rfl⟩ := map_eq_ok.1 h
      exact .header (isPrefixOf?_eq_some.1 hm) (atLine_eq_ok.1 hread)
    · next hm =>
      split at h
      · next rest hi =>
        cases h
        exact .implements (isPrefixOf?_eq_some.1 hi)
      · next hi =>
        split at h
        · next rest hs =>
          cases h
          exact .classSignature (isPrefixOf?_eq_some.1 hs)
        · next hs =>
          cases h
          exact .classRaw ⟨hm, hi, hs⟩
  · intro h
    dsimp only [classLine]
    cases h with
    | header start read =>
      rw [start, isPrefixOf?_append]
      exact map_eq_ok.2 ⟨_, atLine_eq_ok.2 read, rfl⟩
    | implements start =>
      rw [start, isPrefixOf?_append]
      rfl
    | classSignature start =>
      rw [start, isPrefixOf?_append]
      rfl
    | classRaw kept =>
      rw [kept.header, kept.implements, kept.signature]
      rfl

theorem methodLine_eq_ok {n : Nat} {line : Text} {items : List ClassItem} {m : Method}
    {st' : ReaderState} :
    methodLine n line m ⟨items, .method m⟩ = .ok st' ↔
      Takes n line ⟨items, .method m⟩ st' := by
  constructor
  · intro h
    dsimp only [methodLine] at h
    split at h
    · next ht =>
      cases h
      exact .methodEnd ht
    · next ht =>
      split at h
      · next rest hc =>
        obtain ⟨c, hread, rfl⟩ := map_eq_ok.1 h
        exact .sizes (isPrefixOf?_eq_some.1 hc) (atLine_eq_ok.1 hread)
      · next hc =>
        split at h
        · next rest hs =>
          cases h
          exact .methodSignature (isPrefixOf?_eq_some.1 hs)
        · next hs =>
          split at h
          · next rest he =>
            cases h
            exact .exceptions (isPrefixOf?_eq_some.1 he)
          · next he =>
            cases h
            exact .methodRaw ⟨ht, hc, hs, he⟩
  · intro h
    dsimp only [methodLine]
    cases h with
    | methodEnd terminator =>
      rw [if_pos terminator]
      rfl
    | sizes start read =>
      rw [start, if_neg nofun, isPrefixOf?_append]
      exact map_eq_ok.2 ⟨_, atLine_eq_ok.2 read, rfl⟩
    | methodSignature start =>
      rw [start, if_neg nofun, isPrefixOf?_append]
      rfl
    | exceptions start =>
      rw [start, if_neg nofun, isPrefixOf?_append]
      rfl
    | methodRaw kept =>
      rw [if_neg kept.terminator, kept.sizes, kept.signature, kept.exceptions]

theorem ofOpener?_eq_some {line : Text} {table : Table} :
    Table.ofOpener? line = some table ↔ line = table.opener := by
  constructor
  · intro h
    rw [Table.ofOpener?] at h
    split_ifs at h with h1 h2 h3
    · cases h
      exact h1
    · cases h
      exact h2
    · cases h
      exact h3
  · rintro rfl
    cases table <;> rfl

theorem opener_ne_terminator (table : Table) : table.opener ≠ Block.code.terminator := by
  cases table <;> nofun

theorem ofOpener?_eq_none {line : Text} {l : LabelledLine} (h : LabelledLine.read? line = some l) :
    Table.ofOpener? (trim line) = none :=
  Option.eq_none_iff_forall_ne_some.2 fun _ ho =>
    LabelledLine.trim_ne_of_read? h rfl (ofOpener?_eq_some.1 ho)

theorem codeLine_eq {n : Nat} {line : Text} {items : List ClassItem} {m : Method} {c : Code}
    {st' : ReaderState} :
    codeLine line m c ⟨items, .code m c⟩ = st' ↔ Takes n line ⟨items, .code m c⟩ st' := by
  constructor
  · rintro rfl
    dsimp only [codeLine]
    split
    · next ht => exact .codeEnd ht
    · next ht =>
      split
      · next table ho => exact .opener (ofOpener?_eq_some.1 ho)
      · next ho =>
        split
        · next l hl => exact .instruction hl
        · next hl => exact .codeRaw ⟨ht, ho, hl⟩
  · intro h
    dsimp only [codeLine]
    cases h with
    | codeEnd terminator => rw [if_pos terminator]
    | opener opener =>
      rw [opener, if_neg (opener_ne_terminator _), ofOpener?_eq_some.2 rfl]
    | instruction read =>
      rw [if_neg (LabelledLine.trim_ne_of_read? read rfl), ofOpener?_eq_none read, read]
    | codeRaw kept => rw [if_neg kept.terminator, kept.opener, kept.label]

theorem tableLine_eq_ok {n : Nat} {line : Text} {items : List ClassItem} {m : Method} {c : Code}
    {table : Table} {entries : List NumberedLine} {st' : ReaderState} :
    tableLine n line m c table entries ⟨items, .table m c table entries⟩ = .ok st' ↔
      Takes n line ⟨items, .table m c table entries⟩ st' := by
  constructor
  · intro h
    rw [tableLine] at h
    split at h
    · next ht =>
      obtain ⟨item, hread, rfl⟩ := map_eq_ok.1 h
      exact .tableEnd ht hread
    · next ht =>
      cases h
      exact .entry ht
  · intro h
    rw [tableLine]
    cases h with
    | tableEnd terminator read =>
      rw [if_pos terminator]
      exact map_eq_ok.2 ⟨_, read, rfl⟩
    | entry entry => rw [if_neg entry]

/-- The reader takes a line in the listed ways and in no other. -/
theorem step_eq_ok {n : Nat} {line : Text} {st st' : ReaderState} :
    st.step n line = .ok st' ↔ Takes n line st st' := by
  obtain ⟨items, block⟩ := st
  cases block with
  | none => exact classLine_eq_ok
  | method m => exact methodLine_eq_ok
  | code m c => rw [← codeLine_eq, step, Except.ok.injEq]
  | table m c table entries => exact tableLine_eq_ok

end ReaderState

end ErasedBridges
