import ErasedBridges.Proofs.ClassFile.Run

/-!
# Reading one text behind another

Between two texts that are joined by a line break no block is open if the first can be read. The
reader then goes on as from its start: only the items in front and the numbers of the lines differ.
`step_behind` says so for one line and `run_behind` for all of them, failures included.
-/

namespace ErasedBridges

open Text

/-- The failure with its line counted from `k` lines further up. -/
def ReadError.behind (k : Nat) : ReadError → ReadError
  | malformed n fault => malformed (n + k) fault
  | e => e

/-- The entries of an open table keep the numbers of their lines until they are read. -/
def OpenBlock.behind (k : Nat) : OpenBlock → OpenBlock
  | table m c t entries => table m c t (entries.map fun (n, line) => (n + k, line))
  | block => block

def ReaderState.behind (items : List ClassItem) (k : Nat) (st : ReaderState) : ReaderState :=
  ⟨items ++ st.items, st.block.behind k⟩

variable {items : List ClassItem} {k n : Nat} {line : Text}

/-! ### Failures of a line -/

theorem atLine_behind {α : Type} (x : Except LineFault α) :
    atLine (n + k) x = (atLine n x).mapError (ReadError.behind k) := by
  cases x with
  | error fault => rfl
  | ok a => rfl

theorem readEntries_behind {α : Type} (read : Text → Except LineFault α)
    (entries : List NumberedLine) :
    readEntries read (entries.map fun (n, line) => (n + k, line)) =
      (readEntries read entries).mapError (ReadError.behind k) := by
  unfold readEntries
  induction entries with
  | nil => rfl
  | cons entry entries ih =>
    obtain ⟨n, line⟩ := entry
    rw [List.map_cons, List.mapM_cons, List.mapM_cons, ih]
    dsimp only
    rw [atLine_behind]
    cases atLine n (read line) with
    | error e => rfl
    | ok a =>
      cases entries.mapM fun (n, line) => atLine n (read line) with
      | error e => rfl
      | ok as => rfl

theorem Table.read_behind (table : Table) (entries : List NumberedLine) :
    table.read (entries.map fun (n, line) => (n + k, line)) =
      (table.read entries).mapError (ReadError.behind k) := by
  have hmap {α : Type} (make : List α → CodeItem) (x : Except ReadError (List α)) :
      (x.mapError (ReadError.behind k)).map make =
        (x.map make).mapError (ReadError.behind k) := by
    cases x with
    | error e => rfl
    | ok as => rfl
  cases table with
  | lineNumbers => exact (congrArg _ (readEntries_behind _ entries)).trans (hmap _ _)
  | localVariables => exact (congrArg _ (readEntries_behind _ entries)).trans (hmap _ _)
  | localTypes => exact (congrArg _ (readEntries_behind _ entries)).trans (hmap _ _)

theorem malformed_of_atLine {α : Type} {x : Except LineFault α} {e : ReadError}
    (h : atLine n x = .error e) : ∃ n fault, e = .malformed n fault := by
  cases x with
  | error fault => exact ⟨n, fault, (Except.error.inj h).symm⟩
  | ok a => cases h

theorem malformed_of_readEntries {α : Type} {read : Text → Except LineFault α}
    {entries : List NumberedLine} {e : ReadError} (h : readEntries read entries = .error e) :
    ∃ n fault, e = .malformed n fault := by
  obtain ⟨entry, -, hentry⟩ := exists_of_mapM_eq_error h
  exact malformed_of_atLine hentry

theorem Table.malformed_of_read {table : Table} {entries : List NumberedLine} {e : ReadError}
    (h : table.read entries = .error e) : ∃ n fault, e = .malformed n fault := by
  cases table with
  | lineNumbers => exact malformed_of_readEntries (map_eq_error.1 h)
  | localVariables => exact malformed_of_readEntries (map_eq_error.1 h)
  | localTypes => exact malformed_of_readEntries (map_eq_error.1 h)

/-! ### Lines -/

namespace ReaderState

theorem malformed_of_step {st : ReaderState} {e : ReadError} (h : st.step n line = .error e) :
    ∃ n fault, e = .malformed n fault := by
  obtain ⟨done, block⟩ := st
  cases block with
  | none =>
    simp only [step, classLine] at h
    split at h
    · exact malformed_of_atLine (map_eq_error.1 h)
    · split at h
      · cases h
      · split at h
        · cases h
        · cases h
  | method m =>
    simp only [step, methodLine] at h
    split at h
    · cases h
    · split at h
      · exact malformed_of_atLine (map_eq_error.1 h)
      · split at h
        · cases h
        · split at h
          · cases h
          · cases h
  | code m c => cases h
  | table m c table entries =>
    simp only [step, tableLine] at h
    split at h
    · exact Table.malformed_of_read (map_eq_error.1 h)
    · cases h

theorem malformed_of_run {lines : List Text} {st : ReaderState} {e : ReadError}
    (h : st.run n lines = .error e) : ∃ n fault, e = .malformed n fault := by
  induction lines generalizing n st with
  | nil => cases h
  | cons line lines ih =>
    rw [run, bind_eq_error] at h
    rcases h with hline | ⟨st', -, hlines⟩
    · exact malformed_of_step hline
    · exact ih hlines

theorem behind_addItem (i : ClassItem) (st : ReaderState) :
    (st.addItem i).behind items k = (st.behind items k).addItem i := by
  simp [behind, addItem, OpenBlock.behind]

/-- What a line that may not be readable makes of the state. -/
theorem map_atLine_behind {α : Type} (x : Except LineFault α) (next : α → ReaderState) :
    (atLine (n + k) x).map (fun a => (next a).behind items k) =
      (((atLine n x).map next).map (behind items k)).mapError (ReadError.behind k) := by
  rw [atLine_behind]
  cases x with
  | error fault => rfl
  | ok a => rfl

theorem step_behind (st : ReaderState) :
    (st.behind items k).step (n + k) line =
      ((st.step n line).map (behind items k)).mapError (ReadError.behind k) := by
  obtain ⟨done, block⟩ := st
  cases block with
  | none =>
    simp only [step, behind, OpenBlock.behind, classLine]
    split
    · exact map_atLine_behind _ fun m => ⟨done, .method m⟩
    · split
      · exact congrArg Except.ok (behind_addItem _ ⟨done, .none⟩).symm
      · split
        · exact congrArg Except.ok (behind_addItem _ ⟨done, .none⟩).symm
        · exact congrArg Except.ok (behind_addItem _ ⟨done, .none⟩).symm
  | method m =>
    simp only [step, behind, OpenBlock.behind, methodLine]
    split
    · exact congrArg Except.ok (behind_addItem _ ⟨done, .method m⟩).symm
    · split
      · exact map_atLine_behind _ fun c => ⟨done, .code m c⟩
      · split
        · rfl
        · split
          · rfl
          · rfl
  | code m c =>
    simp only [step, behind, OpenBlock.behind, codeLine]
    split
    · rfl
    · split
      · rfl
      · split
        · rfl
        · rfl
  | table m c table entries =>
    simp only [step, behind, OpenBlock.behind, tableLine]
    split
    · rw [Table.read_behind]
      cases table.read entries with
      | error e => rfl
      | ok item => rfl
    · simp [Except.map, Except.mapError, behind, OpenBlock.behind]

theorem run_behind (lines : List Text) (st : ReaderState) :
    (st.behind items k).run (n + k) lines =
      ((st.run n lines).map (behind items k)).mapError (ReadError.behind k) := by
  induction lines generalizing n st with
  | nil => rfl
  | cons line lines ih =>
    rw [run, run, step_behind]
    cases st.step n line with
    | error e => rfl
    | ok st' =>
      change (st'.behind items k).run (n + k + 1) lines =
        ((st'.run (n + 1) lines).map (behind items k)).mapError (ReadError.behind k)
      rw [Nat.add_right_comm, ih]

theorem finish_behind (st : ReaderState) :
    (st.behind items k).finish =
      (st.finish.map fun c => ⟨items ++ c.items⟩).mapError (ReadError.behind k) := by
  obtain ⟨done, block⟩ := st
  cases block <;> rfl

end ReaderState

namespace ClassFile

theorem textLines_append (a b : Text) :
    textLines (a ++ '\n' :: b) = textLines a ++ textLines b := by
  rw [textLines, split_append_cons rfl, List.map_append]
  rfl

/-- The second text is read as by itself, behind the lines of the first. -/
theorem read_append_eq {a : Text} {x : ClassFile} (ha : read a = .ok x) (b : Text) :
    read (a ++ '\n' :: b) =
      ((read b).map fun y => ⟨x.items ++ y.items⟩).mapError
        (ReadError.behind (textLines a).length) := by
  have hstart : (⟨x.items, .none⟩ : ReaderState) =
      ReaderState.initial.behind x.items (textLines a).length := by
    simp [ReaderState.behind, ReaderState.initial, OpenBlock.behind]
  rw [read, textLines_append, ReaderState.run_append, read_eq_ok.1 ha]
  change (ReaderState.run _ _ _ >>= ReaderState.finish) = _
  rw [hstart, ReaderState.run_behind, read]
  cases ReaderState.initial.run 1 (textLines b) with
  | error e => rfl
  | ok st => exact ReaderState.finish_behind st

/-- No other failures come out of reading. -/
theorem malformed_or_unexpectedEnd_of_read {t : Text} {e : ReadError} (h : read t = .error e) :
    (∃ n fault, e = .malformed n fault) ∨ ∃ block, e = .unexpectedEnd block := by
  rw [read, bind_eq_error] at h
  rcases h with hrun | ⟨st, -, hfinish⟩
  · exact Or.inl (ReaderState.malformed_of_run hrun)
  · rw [ReaderState.finish] at hfinish
    split at hfinish
    · cases hfinish
      exact Or.inr ⟨_, rfl⟩
    · cases hfinish

/-- A text behind a text that can be read is read as by itself. A failure in it is the same
failure, at the line where it stands in the whole. -/
theorem read_append {a : Text} {x : ClassFile} (ha : read a = .ok x) (b : Text) :
    (∀ y, read b = .ok y → read (a ++ '\n' :: b) = .ok ⟨x.items ++ y.items⟩) ∧
    (∀ n fault, read b = .error (.malformed n fault) →
      read (a ++ '\n' :: b) = .error (.malformed (n + (textLines a).length) fault)) ∧
    (∀ block, read b = .error (.unexpectedEnd block) →
      read (a ++ '\n' :: b) = .error (.unexpectedEnd block)) ∧
    ∀ e, read b = .error e →
      (∃ n fault, e = .malformed n fault) ∨ ∃ block, e = .unexpectedEnd block := by
  have hread := read_append_eq ha b
  refine ⟨?_, ?_, ?_, fun e => malformed_or_unexpectedEnd_of_read⟩
  · intro y hy
    rw [hread, hy]
    rfl
  · intro n fault hb
    rw [hread, hb]
    rfl
  · intro block hb
    rw [hread, hb]
    rfl

def abstractText : Text :=
  ".class A\n.implements I\n.method abstract f : ()V\n.end method\n".toList

def abstractClass : ClassFile :=
  ⟨[.raw ".class A".toList, .implements ['I'],
    .method ⟨["abstract".toList], ['f'], "()V".toList, []⟩, .raw []]⟩

def brokenTable : Text :=
  (".method f : ()V\n.code stack 0 locals 1\n.linenumbertable\nL0 1\nL1\n" ++
    ".end linenumbertable\n.end code\n.end method").toList

theorem read_append_abstractText :
    read abstractText = .ok abstractClass ∧
    read (abstractText ++ '\n' :: ".implements J".toList) =
      .ok ⟨abstractClass.items ++ [.implements ['J']]⟩ ∧
    read brokenTable = .error (.malformed 5 (.lineEntry "L1".toList)) ∧
    read (abstractText ++ '\n' :: brokenTable) =
      .error (.malformed 10 (.lineEntry "L1".toList)) ∧
    read (abstractText ++ '\n' :: ".method f : ()V".toList) = .error (.unexpectedEnd .method) := by
  have ha : read abstractText = .ok abstractClass := by decide +kernel
  have hbroken : read brokenTable = .error (.malformed 5 (.lineEntry "L1".toList)) := by
    decide +kernel
  have hlength : (textLines abstractText).length = 5 := by decide +kernel
  have htable := (read_append ha brokenTable).2.1 5 _ hbroken
  rw [hlength] at htable
  refine ⟨ha, ?_, hbroken, htable, ?_⟩
  · exact (read_append ha _).1 ⟨[.implements ['J']]⟩ (by decide +kernel)
  · exact (read_append ha _).2.2.1 .method (by decide +kernel)

end ClassFile

end ErasedBridges
