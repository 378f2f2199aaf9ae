import ErasedBridges.Proofs.ClassFile.Printed

/-!
# Printing and reading again

A class that was read is read again from its printed text. Two things that printing does not keep
are excluded: a carriage return at the end of a line that is kept, and a blank other than a space
beside a lone colon in a method header.
-/

namespace ErasedBridges

open Text

/-- No line ends in two carriage returns. -/
def Text.HasSingleReturns (t : Text) : Prop :=
  ∀ line ∈ split (· == '\n') t, ¬"\r\r".toList <:+ line

theorem Text.HasSingleReturns.isLine {t line : Text} (h : HasSingleReturns t)
    (hline : line ∈ ClassFile.textLines t) : IsLine line := by
  refine ⟨ClassFile.break_notMem_of_mem_textLines hline, ?_⟩
  obtain ⟨piece, hpiece, rfl⟩ := List.mem_map.1 hline
  intro hlast
  rcases dropReturn_cases piece with ⟨hkept, hne⟩ | hdropped
  · exact hne (hkept ▸ hlast)
  · obtain ⟨s, hs⟩ := List.getLast?_eq_some_iff.1 hlast
    refine h piece hpiece ⟨s, ?_⟩
    rw [hdropped, hs, List.append_assoc]
    rfl

namespace OpenBlock

def method? : OpenBlock → Option Method
  | none => .none
  | method m => some m
  | code m _ => some m
  | table m _ _ _ => some m

end OpenBlock

namespace ReaderState

/-- Every header that was read is one that is found again. -/
structure HeadersSplit (st : ReaderState) : Prop where
  items : ∀ m, .method m ∈ st.items → m.HeaderSplits
  block : ∀ m, st.block.method? = some m → m.HeaderSplits

theorem headersSplit_initial : initial.HeadersSplit := ⟨nofun, nofun⟩

theorem Takes.headersSplit {n : Nat} {line : Text} {st st' : ReaderState}
    (h : Takes n line st st') (hst : st.HeadersSplit)
    (hheader : st.block = .none → ∀ rest m, trimEnd line = ".method ".toList ++ rest →
      Method.readHeader rest = .ok m → m.HeaderSplits) : st'.HeadersSplit := by
  have hadd {items : List ClassItem} {i : ClassItem}
      (hitems : ∀ m, .method m ∈ items → m.HeaderSplits) (hi : ∀ m, i = .method m → m.HeaderSplits) :
      ∀ m, .method m ∈ items ++ [i] → m.HeaderSplits := by
    intro m hm
    rcases List.mem_append.1 hm with hm | hm
    · exact hitems m hm
    · exact hi m (List.mem_singleton.1 hm).symm
  have hattribute {m : Method} {a : Attribute} (hm : m.HeaderSplits) :
      ∀ m', some (m.addAttribute a) = some m' → m'.HeaderSplits := by
    rintro _ ⟨⟩
    exact hm
  obtain ⟨hitems, hblock⟩ := hst
  cases h with
  | header start read =>
    refine ⟨hitems, ?_⟩
    rintro m ⟨⟩
    exact hheader rfl _ _ start read
  | implements => exact ⟨hadd hitems nofun, nofun⟩
  | classSignature => exact ⟨hadd hitems nofun, nofun⟩
  | classRaw => exact ⟨hadd hitems nofun, nofun⟩
  | methodEnd =>
    refine ⟨hadd hitems ?_, nofun⟩
    rintro m ⟨⟩
    exact hblock _ rfl
  | sizes => exact ⟨hitems, hblock⟩
  | methodSignature => exact ⟨hitems, hattribute (hblock _ rfl)⟩
  | exceptions => exact ⟨hitems, hattribute (hblock _ rfl)⟩
  | methodRaw => exact ⟨hitems, hattribute (hblock _ rfl)⟩
  | codeEnd => exact ⟨hitems, hattribute (hblock _ rfl)⟩
  | opener => exact ⟨hitems, hblock⟩
  | instruction => exact ⟨hitems, hblock⟩
  | codeRaw => exact ⟨hitems, hblock⟩
  | tableEnd => exact ⟨hitems, hblock⟩
  | entry => exact ⟨hitems, hblock⟩

end ReaderState

namespace ClassFile

/-- Before the first ` : ` of each method header of `t`, every blank is a space. -/
def HasPlainHeaders (t : Text) : Prop :=
  ∀ done line st, Meets t done line st → st.block = .none →
    ∀ header, ".method ".toList.isPrefixOf? (trimEnd line) = some header →
      ∀ head descriptor, cut? " : ".toList header = some (head, descriptor) →
        ∀ c ∈ head, isBlank c = true → c = ' '

theorem hasPlainHeaders_of_blanks {t : Text}
    (h : ∀ line ∈ textLines t, ∀ c ∈ line, isBlank c = true → c = ' ') : HasPlainHeaders t := by
  intro done line st hmeets _ header hstart head descriptor hcut c hc hblank
  refine h line (hmeets.lines.subset (by simp)) c (mem_of_mem_trimEnd ?_) hblank
  rw [isPrefixOf?_eq_some.1 hstart, ← cut?_append hcut]
  simp [hc]

theorem headersSplit_read {t : Text} {c : ClassFile} (h : read t = .ok c)
    (hheaders : HasPlainHeaders t) : ∀ m ∈ c.methods, m.HeaderSplits := by
  have hall := read_induction (motive := fun _ st => st.HeadersSplit)
    ReaderState.headersSplit_initial ?_ h
  · intro m hm
    exact hall.items m (mem_methods.1 hm)
  · intro done line st st' hmeets htakes hst
    refine htakes.headersSplit hst fun hblock rest m hstart hread => ?_
    obtain ⟨-, head, descriptor, hcut, hwords, -⟩ := Method.readHeader_eq_ok.1 hread
    rw [Method.HeaderSplits, ← hwords]
    exact colon_notMem_tail_words hcut
      (hheaders done line st hmeets hblock rest (isPrefixOf?_eq_some.2 hstart) head descriptor hcut)

/-- What was read is read again from its printed text, so printing it again changes nothing. -/
theorem read_printed_of_read {t : Text} {c : ClassFile} (h : read t = .ok c)
    (hreturns : t.HasSingleReturns) (hheaders : HasPlainHeaders t) :
    read c.printed = .ok c ∧ (read c.printed).map printed = .ok c.printed := by
  have hread : read c.printed = .ok c :=
    read_printed (readable_read h fun line hline => hreturns.isLine hline)
      (headersSplit_read h hheaders) (items_ne_nil_of_read h)
  exact ⟨hread, by rw [hread]; rfl⟩

def looseText : Text :=
  join ['\n'] [".class Box\r".toList, ".implements  lib/Source ".toList,
    ".method public  get : ()I".toList, ".signature '()TT;' ".toList,
    ".code stack 1 locals 007".toList, "L0:iload_1".toList, " .linenumbertable".toList,
    "L0   +12".toList, ".end linenumbertable".toList, "; kept ".toList, "L1:".toList,
    " .end code".toList, ".exceptions a  b".toList, ".end method".toList, []]

def looseClass : ClassFile :=
  ⟨[.raw ".class Box".toList, .implements "lib/Source".toList,
    .method ⟨["public".toList], "get".toList, "()I".toList,
      [.signature ⟨"()TT;".toList, some .single⟩,
        .code ⟨1, 7, [.instruction ⟨"L0".toList, "iload_1".toList⟩,
          .lineNumbers [⟨"L0".toList, 12⟩], .raw "; kept ".toList,
          .instruction ⟨"L1".toList, []⟩]⟩,
        .exceptions ["a".toList, "b".toList]]⟩,
    .raw []]⟩

theorem read_printed_looseText : read looseText = .ok looseClass ∧ looseText.HasSingleReturns ∧
    HasPlainHeaders looseText ∧ read looseClass.printed = .ok looseClass ∧
    (read looseClass.printed).map printed = .ok looseClass.printed := by
  have hread : read looseText = .ok looseClass := by decide +kernel
  have hreturns : looseText.HasSingleReturns := by
    rw [HasSingleReturns]
    decide +kernel
  have hblanks : ∀ line ∈ textLines looseText, ∀ c ∈ line, isBlank c = true → c = ' ' := by
    decide +kernel
  have hheaders := hasPlainHeaders_of_blanks hblanks
  have hagain := read_printed_of_read hread hreturns hheaders
  exact ⟨hread, hreturns, hheaders, hagain.1, hagain.2⟩

end ClassFile

end ErasedBridges
