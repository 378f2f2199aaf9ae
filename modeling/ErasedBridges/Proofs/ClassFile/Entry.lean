import ErasedBridges.Proofs.ClassFile.Line

/-!
# Lines of words

Table entries and code sizes are read word by word and print as words joined by single spaces.
-/

namespace ErasedBridges

open Text

theorem readNumber_eq_ok {limit n : Nat} {s : Text} :
    readNumber limit s = .ok n ↔ readDecimal? limit s = some n := by
  rw [readNumber]
  split
  · next m hm => rw [hm, Except.ok.injEq, Option.some.injEq]
  · next hm => rw [hm]; exact ⟨nofun, nofun⟩

theorem blank_entryIndent : Blank entryIndent := fun _ hc => by
  rw [List.eq_of_mem_replicate hc]
  rfl

theorem isPhrase_join {ws : List Text} (hne : ws ≠ []) (h : ∀ w ∈ ws, IsWord w) :
    IsPhrase (join [' '] ws) := by
  obtain ⟨w, t, rfl⟩ := List.exists_cons_of_ne_nil hne
  have hw := h w (by simp)
  obtain ⟨c, u, rfl⟩ := List.exists_cons_of_ne_nil hw.1
  have hhead : (join [' '] ((c :: u) :: t)).head? = some c := by cases t <;> simp
  refine ⟨?_, ⟨?_, endsInInk_join h⟩, ?_⟩
  · intro he
    rw [he] at hhead
    cases hhead
  · intro d hd
    rw [hhead] at hd
    cases hd
    exact hw.2 c (by simp)
  · exact break_notMem_join fun w hw => (h w hw).2.break_notMem

namespace LineEntry

structure Readable (e : LineEntry) : Prop where
  label : IsWord e.label
  line : e.line ≤ maxLine

theorem read_eq_ok {line : Text} {e : LineEntry} :
    read line = .ok e ↔ ∃ number, words line = [e.label, number] ∧
      readDecimal? maxLine number = some e.line := by
  obtain ⟨label, n⟩ := e
  rw [read]
  split
  · next l number hw =>
    simp only [bind_eq_ok, readNumber_eq_ok, hw]
    constructor
    · rintro ⟨m, hm, h⟩
      cases h
      exact ⟨number, rfl, hm⟩
    · rintro ⟨number', hl, hm⟩
      cases hl
      exact ⟨n, hm, rfl⟩
  · next hw =>
    refine ⟨nofun, ?_⟩
    rintro ⟨number, hl, -⟩
    exact absurd hl (hw label number)

theorem readable_read {line : Text} {e : LineEntry} (h : read line = .ok e) : e.Readable := by
  obtain ⟨number, hw, hn⟩ := read_eq_ok.1 h
  exact ⟨isWord_of_mem_words (s := line) (by simp [hw]), le_of_readDecimal? hn⟩

theorem printed_eq_join (e : LineEntry) : e.printed = join [' '] [e.label, decimal e.line] := by
  simp [printed]

theorem Readable.isWord {e : LineEntry} (h : e.Readable) :
    ∀ w ∈ [e.label, decimal e.line], IsWord w := by
  simpa using ⟨h.label, isWord_decimal e.line⟩

theorem Readable.words_printed {e : LineEntry} (h : e.Readable) :
    words (entryIndent ++ e.printed) = [e.label, decimal e.line] := by
  rw [words_blank_append blank_entryIndent, printed_eq_join, words_join h.isWord]

theorem Readable.isPhrase_printed {e : LineEntry} (h : e.Readable) : IsPhrase e.printed := by
  rw [printed_eq_join]
  exact isPhrase_join (by simp) h.isWord

theorem read_printed {e : LineEntry} (h : e.Readable) : read (entryIndent ++ e.printed) = .ok e :=
  read_eq_ok.2 ⟨decimal e.line, h.words_printed, readDecimal?_decimal h.line⟩

end LineEntry

namespace VariableEntry

structure Readable (e : VariableEntry) : Prop where
  index : e.index ≤ maxShort
  name : IsWord e.name
  descriptor : IsWord e.descriptor
  start : IsWord e.start
  stop : IsWord e.stop

/-- The words of an entry whose index is written as `index`. -/
def wordsWith (e : VariableEntry) (index : Text) : List Text :=
  [index, "is".toList, e.name, e.descriptor, "from".toList, e.start, "to".toList, e.stop]

theorem read_eq_ok {line : Text} {e : VariableEntry} :
    read line = .ok e ↔ ∃ index, words line = e.wordsWith index ∧
      readDecimal? maxShort index = some e.index := by
  obtain ⟨n, name, descriptor, start, stop⟩ := e
  rw [read]
  split
  · next index isWord name' descriptor' fromWord start' toWord stop' hw =>
    split
    · next hwords =>
      obtain ⟨rfl, rfl, rfl⟩ := hwords
      simp only [bind_eq_ok, readNumber_eq_ok, hw, wordsWith]
      constructor
      · rintro ⟨m, hm, h⟩
        cases h
        exact ⟨index, rfl, hm⟩
      · rintro ⟨index', hl, hm⟩
        cases hl
        exact ⟨n, hm, rfl⟩
    · next hwords =>
      refine ⟨nofun, ?_⟩
      rintro ⟨index', hl, -⟩
      rw [hw] at hl
      simp only [wordsWith, List.cons.injEq] at hl
      exact absurd ⟨hl.2.1, hl.2.2.2.2.1, hl.2.2.2.2.2.2.1⟩ hwords
  · next hw =>
    refine ⟨nofun, ?_⟩
    rintro ⟨index, hl, -⟩
    exact absurd hl (hw _ _ _ _ _ _ _ _)

theorem readable_read {line : Text} {e : VariableEntry} (h : read line = .ok e) : e.Readable := by
  obtain ⟨index, hw, hn⟩ := read_eq_ok.1 h
  have hword : ∀ w ∈ e.wordsWith index, IsWord w := fun w hm => isWord_of_mem_words (hw ▸ hm)
  simp only [wordsWith, List.forall_mem_cons] at hword
  exact ⟨le_of_readDecimal? hn, hword.2.2.1, hword.2.2.2.1, hword.2.2.2.2.2.1,
    hword.2.2.2.2.2.2.2.1⟩

theorem printed_eq_join (e : VariableEntry) :
    e.printed = join [' '] (e.wordsWith (decimal e.index)) := by
  simp [printed, wordsWith]

theorem Readable.isWord {e : VariableEntry} (h : e.Readable) :
    ∀ w ∈ e.wordsWith (decimal e.index), IsWord w := by
  have hfixed : ∀ w ∈ ["is".toList, "from".toList, "to".toList], IsWord w := by decide
  simp only [List.forall_mem_cons] at hfixed
  simp only [wordsWith, List.forall_mem_cons]
  exact ⟨isWord_decimal _, hfixed.1, h.name, h.descriptor, hfixed.2.1, h.start, hfixed.2.2.1,
    h.stop, List.forall_mem_nil _⟩

theorem Readable.words_printed {e : VariableEntry} (h : e.Readable) :
    words (entryIndent ++ e.printed) = e.wordsWith (decimal e.index) := by
  rw [words_blank_append blank_entryIndent, printed_eq_join, words_join h.isWord]

theorem Readable.isPhrase_printed {e : VariableEntry} (h : e.Readable) :
    IsPhrase e.printed := by
  rw [printed_eq_join]
  exact isPhrase_join (by simp [wordsWith]) h.isWord

theorem read_printed {e : VariableEntry} (h : e.Readable) :
    read (entryIndent ++ e.printed) = .ok e :=
  read_eq_ok.2 ⟨decimal e.index, h.words_printed, readDecimal?_decimal h.index⟩

end VariableEntry

namespace Code

/-- The words after `.code`, with the sizes written as `stack` and `locals`. -/
def sizeWords (stack locals : Text) : List Text :=
  ["stack".toList, stack, "locals".toList, locals]

theorem readSizes_eq_ok {s : Text} {c : Code} :
    readSizes s = .ok c ↔ c.items = [] ∧ ∃ stack locals, words s = sizeWords stack locals ∧
      readDecimal? maxShort stack = some c.stack ∧
      readDecimal? maxShort locals = some c.locals := by
  obtain ⟨m, n, items⟩ := c
  rw [readSizes]
  split
  · next stackWord stack localsWord locals hw =>
    split
    · next hwords =>
      obtain ⟨rfl, rfl⟩ := hwords
      simp only [bind_eq_ok, readNumber_eq_ok, hw, sizeWords]
      constructor
      · rintro ⟨m', hm, n', hn, h⟩
        cases h
        exact ⟨rfl, stack, locals, rfl, hm, hn⟩
      · rintro ⟨rfl, stack', locals', hl, hm, hn⟩
        cases hl
        exact ⟨m, hm, n, hn, rfl⟩
    · next hwords =>
      refine ⟨nofun, ?_⟩
      rintro ⟨-, stack', locals', hl, -⟩
      rw [hw] at hl
      simp only [sizeWords, List.cons.injEq] at hl
      exact absurd ⟨hl.1, hl.2.2.1⟩ hwords
  · next hw =>
    refine ⟨nofun, ?_⟩
    rintro ⟨-, stack, locals, hl, -⟩
    exact absurd hl (hw _ _ _ _)

theorem lines_eq (c : Code) :
    c.lines = (attributeIndent ++ (".code ".toList ++
      join [' '] (sizeWords (decimal c.stack) (decimal c.locals)))) ::
        (c.items.flatMap CodeItem.lines ++ [attributeIndent ++ Block.code.terminator]) := by
  simp [lines, sizeWords]

theorem isWord_sizeWords (m n : Nat) : ∀ w ∈ sizeWords (decimal m) (decimal n), IsWord w := by
  have hfixed : ∀ w ∈ ["stack".toList, "locals".toList], IsWord w := by decide
  simp only [List.forall_mem_cons] at hfixed
  simp only [sizeWords, List.forall_mem_cons]
  exact ⟨hfixed.1, isWord_decimal m, hfixed.2.1, isWord_decimal n, List.forall_mem_nil _⟩

theorem readSizes_join {m n : Nat} (hm : m ≤ maxShort) (hn : n ≤ maxShort) :
    readSizes (join [' '] (sizeWords (decimal m) (decimal n))) = .ok ⟨m, n, []⟩ :=
  readSizes_eq_ok.2 ⟨rfl, _, _, words_join (isWord_sizeWords m n), readDecimal?_decimal hm,
    readDecimal?_decimal hn⟩

end Code

end ErasedBridges
