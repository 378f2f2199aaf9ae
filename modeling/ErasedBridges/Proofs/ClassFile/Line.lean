import ErasedBridges.ClassFile.Printer
import ErasedBridges.ClassFile.Reader
import ErasedBridges.Proofs.Success
import ErasedBridges.Proofs.Text.Decimal
import ErasedBridges.Proofs.Text.Separator

/-!
# Reading one line

A part of a class text is readable if it is what some line can be read as. For each kind of line
that is taken apart, reading gives a readable part, and the printed line of a readable part reads
as that part.
-/

namespace ErasedBridges

/-- A text of one line that is not empty and has no blank at its ends. -/
structure Text.IsPhrase (s : Text) : Prop where
  ne_nil : s ≠ []
  trimmed : Text.Trimmed s
  breakFree : '\n' ∉ s

/-- One line that ends in ink. -/
def Text.IsInkLine (s : Text) : Prop := '\n' ∉ s ∧ Text.EndsInInk s

open Text

theorem Text.IsPhrase.isInkLine_append {a b : Text} (ha : '\n' ∉ a) (hb : IsPhrase b) :
    IsInkLine (a ++ b) := by
  refine ⟨?_, endsInInk_append hb.ne_nil hb.trimmed.2⟩
  rw [List.mem_append]
  exact not_or.2 ⟨ha, hb.breakFree⟩

theorem Text.IsPhrase.append {a b : Text} {c : Char} (hb : IsPhrase b) (hhead : a.head? = some c)
    (hc : isBlank c = false) (hbreak : '\n' ∉ a) : IsPhrase (a ++ b) := by
  refine ⟨List.append_ne_nil_of_right_ne_nil a hb.ne_nil, ⟨?_, ?_⟩, ?_⟩
  · intro d hd
    rw [List.head?_append, hhead] at hd
    cases hd
    exact hc
  · exact endsInInk_append hb.ne_nil hb.trimmed.2
  · rw [List.mem_append]
    exact not_or.2 ⟨hbreak, hb.breakFree⟩

theorem Text.IsWord.isPhrase {s : Text} (h : IsWord s) : IsPhrase s :=
  ⟨h.1, h.2.trimmed, h.2.break_notMem⟩

theorem Text.isPhrase_trim {s : Text} (hs : EndsInInk s) (hne : s ≠ []) (hb : '\n' ∉ s) :
    IsPhrase (trim s) := by
  refine ⟨?_, trimmed_trim s, fun h => hb (mem_of_mem_trim h)⟩
  intro h
  have hlast := List.getLast?_eq_some_getLast hne
  have hblank := blank_of_trim_eq_nil h _ (List.mem_of_getLast? hlast)
  rw [hs _ hlast] at hblank
  cases hblank

theorem Text.isPhrase_trim_rest {start rest : Text} (hs : EndsInInk (start ++ rest))
    (hlast : start.getLast? = some ' ') (hb : '\n' ∉ start ++ rest) : IsPhrase (trim rest) := by
  obtain ⟨hne, hrest⟩ := rest_of_endsInInk hs hlast
  exact isPhrase_trim hrest hne fun h => hb (List.mem_append_right _ h)

/-! ### Signatures -/

namespace SignatureText

/-- Between quotes stands any text; without quotes stands a phrase that is not in quotes. -/
structure Readable (s : SignatureText) : Prop where
  breakFree : '\n' ∉ s.value
  phrase : s.quote = none → s.value.IsPhrase
  unquoted : s.quote = none → ∀ q : Quote, ∀ v, s.value ≠ q.char :: (v ++ [q.char])

theorem readable_of_isWord {s : SignatureText} (hs : IsWord s.value)
    (hhead : ∀ q : Quote, s.value.head? ≠ some q.char) : s.Readable := by
  refine ⟨hs.2.break_notMem, fun _ => hs.isPhrase, fun _ q v he => hhead q ?_⟩
  rw [he]
  rfl

theorem read_of_quoted {s v : Text} (q : Quote) (h : trim s = q.char :: (v ++ [q.char])) :
    read s = ⟨v, some q⟩ := by
  have hd : dropEnd? [q.char] (v ++ [q.char]) = some v := dropEnd?_eq_some.2 rfl
  cases q with
  | single =>
    simp only [Quote.char] at h hd
    simp only [read, h, hd]
  | double =>
    simp only [Quote.char] at h hd
    simp only [read, h, hd]

theorem read_of_unquoted {s : Text} (h : ∀ q : Quote, ∀ v, trim s ≠ q.char :: (v ++ [q.char])) :
    read s = ⟨trim s, none⟩ := by
  rw [read]
  split
  · next rest hs =>
    cases hd : dropEnd? ['\''] rest with
    | none => rw [hs]
    | some v => exact absurd (by rw [hs, dropEnd?_eq_some.1 hd]; rfl) (h .single v)
  · next rest hs =>
    cases hd : dropEnd? ['"'] rest with
    | none => rw [hs]
    | some v => exact absurd (by rw [hs, dropEnd?_eq_some.1 hd]; rfl) (h .double v)
  · rfl

theorem text_quoted (v : Text) (q : Quote) :
    (⟨v, some q⟩ : SignatureText).text = q.char :: (v ++ [q.char]) := rfl

theorem text_unquoted (v : Text) : (⟨v, none⟩ : SignatureText).text = v := rfl

theorem text_read (s : Text) : (read s).text = trim s := by
  by_cases h : ∃ q : Quote, ∃ v, trim s = q.char :: (v ++ [q.char])
  · obtain ⟨q, v, h⟩ := h
    rw [read_of_quoted q h, text_quoted, h]
  · push Not at h
    rw [read_of_unquoted h, text_unquoted]

theorem readable_read {s : Text} (h : IsPhrase (trim s)) : (read s).Readable := by
  by_cases hq : ∃ q : Quote, ∃ v, trim s = q.char :: (v ++ [q.char])
  · obtain ⟨q, v, hq⟩ := hq
    rw [read_of_quoted q hq]
    refine ⟨fun hv => h.breakFree ?_, by rintro ⟨⟩, by rintro ⟨⟩⟩
    rw [hq]
    exact List.mem_cons_of_mem _ (List.mem_append_left _ hv)
  · push Not at hq
    rw [read_of_unquoted hq]
    exact ⟨h.breakFree, fun _ => h, fun _ => hq⟩

theorem Readable.isPhrase_text {s : SignatureText} (h : s.Readable) : s.text.IsPhrase := by
  obtain ⟨v, q⟩ := s
  cases q with
  | none => exact h.phrase rfl
  | some q =>
    have hq : isBlank q.char = false := by cases q <;> decide
    have hn : q.char ≠ '\n' := by cases q <;> decide
    have hv : '\n' ∉ v := h.breakFree
    refine ⟨by simp [text_quoted], ⟨?_, ?_⟩, by simp [text_quoted, hv, hn.symm]⟩
    · rintro c ⟨⟩
      exact hq
    · rintro c hc
      rw [text_quoted, ← List.cons_append, List.getLast?_append_of_ne_nil _ (by simp)] at hc
      cases hc
      exact hq

theorem read_text {s : SignatureText} (h : s.Readable) : read s.text = s := by
  have ht := trim_of_trimmed h.isPhrase_text.trimmed
  obtain ⟨v, q⟩ := s
  cases q with
  | none =>
    rw [text_unquoted] at ht ⊢
    rw [read_of_unquoted (by rw [ht]; exact h.unquoted rfl), ht]
  | some q => exact read_of_quoted q ht

end SignatureText

/-! ### Labelled lines -/

namespace LabelledLine

structure Readable (l : LabelledLine) : Prop where
  first : ∃ c, l.label.head? = some c ∧ (c.isAlpha || c == '_') = true
  label : ∀ c ∈ l.label, isLabelChar c = true
  trimmed : Trimmed l.text
  breakFree : '\n' ∉ l.text

theorem isBlank_of_isLabelChar {c : Char} (h : isLabelChar c = true) : isBlank c = false := by
  have hc : (65 ≤ c.toNat ∧ c.toNat ≤ 90) ∨ (97 ≤ c.toNat ∧ c.toNat ≤ 122) ∨
      (48 ≤ c.toNat ∧ c.toNat ≤ 57) ∨ c = '_' ∨ c = '$' := by
    simpa [isLabelChar, Char.isAlphanum, Char.isAlpha, Char.isUpper, Char.isLower, Char.isDigit,
      UInt32.le_iff_toNat_le, or_assoc] using h
  rcases hc with hc | hc | hc | rfl | rfl
  · simp only [isBlank]; grind
  · simp only [isBlank]; grind
  · simp only [isBlank]; grind
  · rfl
  · rfl

theorem read?_eq_some {line : Text} {l : LabelledLine} :
    read? line = some l ↔ ∃ first rest, line.head? = some first ∧
      cut? [':'] line = some (l.label, rest) ∧ (first.isAlpha || first == '_') = true ∧
      (∀ c ∈ l.label, isLabelChar c = true) ∧ l.text = trim rest := by
  obtain ⟨label, text⟩ := l
  simp only [read?, Option.bind_eq_bind, Option.bind_eq_some_iff]
  constructor
  · rintro ⟨first, hf, ⟨b, rest⟩, hc, h⟩
    dsimp only at h
    split at h
    · next hl =>
      rw [Bool.and_eq_true, List.all_eq_true] at hl
      cases h
      exact ⟨first, rest, hf, hc, hl.1, hl.2, rfl⟩
    · cases h
  · rintro ⟨first, rest, hf, hc, hl, hb, rfl⟩
    refine ⟨first, hf, (label, rest), hc, ?_⟩
    rw [if_pos (by rw [hl, Bool.true_and, List.all_eq_true]; exact hb)]
    rfl

theorem readable_read? {line : Text} {l : LabelledLine} (hb : '\n' ∉ line)
    (h : read? line = some l) : l.Readable := by
  obtain ⟨first, rest, hf, hc, hfirst, hlabel, htext⟩ := read?_eq_some.1 h
  have hline := cut?_append hc
  refine ⟨?_, hlabel, htext ▸ trimmed_trim rest, ?_⟩
  · cases hl : l.label with
    | nil =>
      rw [← hline, hl] at hf
      cases hf
      cases hfirst
    | cons c t =>
      rw [← hline, hl] at hf
      cases hf
      exact ⟨_, rfl, hfirst⟩
  · rw [htext]
    intro hm
    apply hb
    rw [← hline]
    exact List.mem_append_right _ (mem_of_mem_trim hm)

theorem Readable.colon_notMem {l : LabelledLine} (h : l.Readable) : ':' ∉ l.label := fun hc =>
  absurd (h.label _ hc) (by decide)

theorem printed_eq (l : LabelledLine) :
    ∃ k, l.printed = l.label ++ ':' :: (List.replicate k ' ' ++ l.text) := by
  rw [printed]
  cases ht : l.text with
  | nil => exact ⟨0, rfl⟩
  | cons c t =>
    refine ⟨7 - (l.label ++ [':']).length + 1, ?_⟩
    rw [if_neg (by simp), padRight, List.replicate_succ']
    simp

theorem read?_printed {l : LabelledLine} (h : l.Readable) : read? l.printed = some l := by
  obtain ⟨k, hk⟩ := l.printed_eq
  obtain ⟨c, hc, hfirst⟩ := h.first
  refine read?_eq_some.2 ⟨c, List.replicate k ' ' ++ l.text, ?_, ?_, hfirst, h.label, ?_⟩
  · rw [hk, List.head?_append, hc]
    rfl
  · rw [hk, cut?_char h.colon_notMem]
  · refine (trim_blank_append ?_ h.trimmed).symm
    intro d hd
    rw [List.eq_of_mem_replicate hd]
    rfl

theorem Readable.isInkLine_printed {l : LabelledLine} (h : l.Readable) : IsInkLine l.printed := by
  obtain ⟨k, hk⟩ := l.printed_eq
  have hlabel : '\n' ∉ l.label := fun hc => absurd (h.label _ hc) (by decide)
  cases ht : l.text with
  | nil =>
    have he : l.printed = l.label ++ [':'] := by rw [printed, ht]; rfl
    rw [he]
    exact (show IsWord [':'] by decide).isPhrase.isInkLine_append hlabel
  | cons c t =>
    rw [hk, ← List.cons_append, ← List.append_assoc]
    refine IsPhrase.isInkLine_append ?_ ⟨by simp [ht], h.trimmed, h.breakFree⟩
    simp [hlabel, List.mem_replicate]

/-- A labelled line begins with no dot, so it neither opens nor closes a block. -/
theorem trim_ne_of_read? {line s : Text} {l : LabelledLine} (h : read? line = some l)
    (hs : s.head? = some '.') : trim line ≠ s := by
  obtain ⟨first, rest, hf, hc, hfirst, hlabel, -⟩ := read?_eq_some.1 h
  have hmem : first ∈ l.label := by
    rw [← cut?_append hc, List.append_assoc] at hf
    cases hl : l.label with
    | nil =>
      rw [hl] at hf
      cases hf
      cases hfirst
    | cons c t =>
      rw [hl] at hf
      cases hf
      exact List.mem_cons_self
  rintro rfl
  have hdot := head?_ink hs rfl
  rw [ink_trim, head?_ink hf (isBlank_of_isLabelChar (hlabel _ hmem))] at hdot
  cases hdot
  cases hfirst

end LabelledLine

end ErasedBridges
