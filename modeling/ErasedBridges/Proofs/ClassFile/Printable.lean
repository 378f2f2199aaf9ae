import ErasedBridges.Proofs.ClassFile.RoundTrip

/-!
# Printable classes

A class is printable if it is read again from its printed text and patching can rely on the words
of its descriptors and signatures. Plain texts, whose only blanks are spaces and line breaks, give
printable classes.
-/

namespace ErasedBridges

open Text

structure Method.Printable (m : Method) : Prop where
  readable : m.Readable IsLine
  splits : m.HeaderSplits
  descriptor : BlankFree m.descriptor

def ClassItem.Printable : ClassItem → Prop
  | implements name => name.IsPhrase
  | signature s => s.Readable ∧ BlankFree s.value
  | method m => m.Printable
  | raw line => IsLine line ∧ KeptInClass line

structure ClassFile.Printable (c : ClassFile) : Prop where
  ne_nil : c.items ≠ []
  items : ∀ i ∈ c.items, i.Printable

theorem ClassItem.Printable.readable {i : ClassItem} (h : i.Printable) : i.Readable IsLine := by
  cases i with
  | implements name => exact h
  | signature s => exact h.1
  | method m => exact Method.Printable.readable h
  | raw line => exact h

namespace ClassFile

theorem Printable.read_printed {c : ClassFile} (h : c.Printable) : read c.printed = .ok c := by
  refine ClassFile.read_printed (fun i hi => (h.items i hi).readable) (fun m hm => ?_) h.ne_nil
  exact (show m.Printable from h.items _ (mem_methods.1 hm)).splits

/-- A class whose descriptors and signatures are words, read from a text in which no blank but
spaces stands within a line. -/
structure ReadPlainly (t : Text) (c : ClassFile) : Prop where
  read : ClassFile.read t = .ok c
  blanks : ∀ b ∈ t, isBlank b = true → b = ' ' ∨ b = '\n'
  descriptors : ∀ m ∈ c.methods, BlankFree m.descriptor
  methodSignatures : ∀ m ∈ c.methods, ∀ a ∈ m.attributes, ∀ s ∈ a.signature?, BlankFree s.value
  classSignatures : ∀ i ∈ c.items, ∀ s ∈ i.signature?, BlankFree s.value
  named : ∀ m ∈ c.methods, ∀ d ∈ m.parsedDescriptor.toOption,
    ∀ type ∈ d.returnType :: d.params, type.className? ≠ some []

namespace ReadPlainly

variable {t : Text} {c : ClassFile} (h : ReadPlainly t c)

include h

theorem eq_space {line : Text} (hline : line ∈ textLines t) {b : Char} (hb : b ∈ line)
    (hblank : isBlank b = true) : b = ' ' := by
  obtain ⟨piece, hpiece, rfl⟩ := List.mem_map.1 hline
  obtain ⟨hbreak, hmem⟩ := of_mem_split hpiece b (mem_of_mem_dropReturn hb)
  rcases h.blanks b hmem hblank with rfl | rfl
  · rfl
  · cases hbreak

theorem isLine {line : Text} (hline : line ∈ textLines t) : IsLine line := by
  refine ⟨break_notMem_of_mem_textLines hline, fun hlast => ?_⟩
  exact absurd (h.eq_space hline (List.mem_of_getLast? hlast) rfl) (by decide)

theorem printable : c.Printable := by
  have hreadable : c.Readable IsLine := readable_read h.read fun line hline => h.isLine hline
  have hheaders : HasPlainHeaders t :=
    hasPlainHeaders_of_blanks fun line hline b hb hblank => h.eq_space hline hb hblank
  refine ⟨items_ne_nil_of_read h.read, fun i hi => ?_⟩
  cases i with
  | implements name => exact hreadable _ hi
  | signature s => exact ⟨hreadable _ hi, h.classSignatures _ hi s rfl⟩
  | method m =>
    have hm : m ∈ c.methods := mem_methods.2 hi
    exact ⟨hreadable _ hi, headersSplit_read h.read hheaders m hm, h.descriptors m hm⟩
  | raw line => exact hreadable _ hi

end ReadPlainly

end ClassFile

end ErasedBridges
