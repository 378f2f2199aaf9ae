import ErasedBridges.Proofs.ClassFile.Entry

/-!
# Method headers

The first ` : ` of a header ends its flags and its name. A lone colon among them is read as a word
if another blank than a space stands beside it, and a printed header has spaces only: so a header
is found again if no word after the first is a lone colon.
-/

namespace ErasedBridges

open Text

def headerColon : Text := " : ".toList

theorem eq_colon_of_append {w r y : Text} (hw : IsWord w) (h : w ++ r = ':' :: ' ' :: y) :
    w = [':'] := by
  obtain ⟨c, w, rfl⟩ := List.exists_cons_of_ne_nil hw.1
  obtain ⟨rfl, ht⟩ := List.cons.inj h
  cases w with
  | nil => rfl
  | cons d w =>
    obtain rfl : d = ' ' := (List.cons.inj ht).1
    exact absurd (hw.2 ' ' (by simp)) (by decide)

theorem cut?_join {w : Text} {ws : List Text} (h : ∀ v ∈ w :: ws, IsWord v) (hws : [':'] ∉ ws)
    (d : Text) :
    cut? headerColon (join [' '] (w :: ws) ++ (headerColon ++ d)) =
      some (join [' '] (w :: ws), d) := by
  induction ws generalizing w with
  | nil =>
    have hw : ' ' ∉ w := fun hc => absurd ((h w (by simp)).2 _ hc) (by decide)
    rw [join_singleton, show headerColon = ' ' :: [':', ' '] from rfl, cut?_append_of_notMem hw,
      cut?_separator _ _ (by simp)]
    simp
  | cons v vs ih =>
    obtain ⟨hw, hvs⟩ := List.forall_mem_cons.1 h
    obtain ⟨hv, hcolon⟩ := not_or.1 (List.mem_cons.not.1 hws)
    have hspace : ' ' ∉ w := fun hc => absurd (hw.2 _ hc) (by decide)
    have hnone : headerColon.isPrefixOf?
        (' ' :: (join [' '] (v :: vs) ++ (headerColon ++ d))) = none := by
      refine isPrefixOf?_eq_none fun rest he => hv ?_
      have ht := (List.cons.inj he).2
      cases vs with
      | nil =>
        rw [join_singleton] at ht
        exact (eq_colon_of_append (hvs v (by simp)) ht).symm
      | cons u us =>
        rw [join_cons_cons, List.append_assoc] at ht
        exact (eq_colon_of_append (hvs v (by simp)) ht).symm
    rw [join_cons_cons, List.append_assoc, List.append_assoc,
      show headerColon = ' ' :: [':', ' '] from rfl, cut?_append_of_notMem hspace]
    rw [show headerColon = ' ' :: [':', ' '] from rfl] at hnone ih
    rw [List.singleton_append, cut?_cons_of_none hnone, ih hvs hcolon]
    simp

/-- A lone colon between spaces would have ended the text before the first ` : `. -/
theorem colon_notMem_tail_words {s head d : Text} (h : cut? headerColon s = some (head, d))
    (hspace : ∀ c ∈ head, isBlank c = true → c = ' ') : [':'] ∉ (words head).tail := by
  intro hm
  obtain ⟨x, c, y, hx, hc, hy⟩ := exists_of_mem_tail_words hm
  obtain rfl : c = ' ' := hspace c (by rw [hx]; simp) hc
  have hs := cut?_append h
  have hlen : x.length < head.length := by
    rw [hx]
    simp
  have hlater : ∃ z, s = x ++ (headerColon ++ z) := by
    cases y with
    | nil =>
      refine ⟨':' :: ' ' :: d, ?_⟩
      rw [← hs, hx]
      simp [headerColon]
    | cons b y =>
      obtain rfl : b = ' ' := hspace b (by rw [hx]; simp) (hy b rfl)
      refine ⟨y ++ (headerColon ++ d), ?_⟩
      rw [← hs, hx]
      simp [headerColon]
  obtain ⟨z, hz⟩ := hlater
  have := length_le_of_cut? h hz
  omega

namespace Method

def headWords (m : Method) : List Text := m.flags ++ [m.name]

theorem headWords_ne_nil (m : Method) : m.headWords ≠ [] := by simp [headWords]

/-- No word after the first is a lone colon. -/
def HeaderSplits (m : Method) : Prop := [':'] ∉ m.headWords.tail

structure ReadableHeader (m : Method) : Prop where
  isWord : ∀ w ∈ m.headWords, IsWord w
  descriptor : IsPhrase m.descriptor

theorem readHeader_eq_ok {s : Text} {m : Method} :
    readHeader s = .ok m ↔ m.attributes = [] ∧ ∃ head descriptor,
      cut? headerColon s = some (head, descriptor) ∧ words head = m.headWords ∧
      m.descriptor = trim descriptor := by
  obtain ⟨flags, name, descriptor, attributes⟩ := m
  rw [readHeader, headerColon]
  split
  · next hcut =>
    refine ⟨nofun, ?_⟩
    rintro ⟨-, head, d, hc, -⟩
    rw [hcut] at hc
    cases hc
  · next head d hcut =>
    dsimp only
    split
    · next hlast =>
      refine ⟨nofun, ?_⟩
      rintro ⟨-, head', d', hc, hw, -⟩
      rw [hcut] at hc
      cases hc
      rw [hw, headWords, List.getLast?_concat] at hlast
      cases hlast
    · next last hlast =>
      have hwords : words head = (words head).dropLast ++ [last] := by
        obtain ⟨ws, hws⟩ := List.getLast?_eq_some_iff.1 hlast
        rw [hws, List.dropLast_concat]
      constructor
      · intro h
        cases h
        exact ⟨rfl, head, d, hcut, hwords, rfl⟩
      · rintro ⟨rfl, head', d', hc, hw, rfl⟩
        rw [hcut] at hc
        cases hc
        rw [hw, headWords] at hlast ⊢
        rw [List.getLast?_concat] at hlast
        cases hlast
        rw [List.dropLast_concat]

theorem flatMap_space_append (fs : List Text) (name : Text) :
    fs.flatMap (· ++ [' ']) ++ name = join [' '] (fs ++ [name]) := by
  induction fs with
  | nil => simp
  | cons f fs ih =>
    rw [List.flatMap_cons, List.append_assoc, List.append_assoc, ih]
    cases fs with
    | nil => simp
    | cons g gs => simp

theorem header_eq (m : Method) :
    m.header = ".method ".toList ++ (join [' '] m.headWords ++ (headerColon ++ m.descriptor)) := by
  have hjoin := flatMap_space_append m.flags m.name
  have hassoc := List.append_assoc (join [' '] m.headWords) headerColon m.descriptor
  rw [← headWords] at hjoin
  rw [← hassoc, ← hjoin]
  rfl

theorem readableHeader_read {s : Text} {m : Method} (hs : EndsInInk s) (hb : '\n' ∉ s)
    (h : readHeader s = .ok m) : m.ReadableHeader := by
  obtain ⟨-, head, d, hcut, hw, hd⟩ := readHeader_eq_ok.1 h
  have hlast : (head ++ headerColon).getLast? = some ' ' := by simp [headerColon]
  rw [← cut?_append hcut] at hs hb
  exact ⟨fun w hm => isWord_of_mem_words (hw ▸ hm), hd ▸ isPhrase_trim_rest hs hlast hb⟩

/-- Printing and reading a header loses the attributes only. -/
theorem readHeader_printed {m : Method} (h : m.ReadableHeader) (hs : m.HeaderSplits) :
    readHeader (join [' '] m.headWords ++ (headerColon ++ m.descriptor)) =
      .ok { m with attributes := [] } := by
  have hcut : cut? headerColon (join [' '] m.headWords ++ (headerColon ++ m.descriptor)) =
      some (join [' '] m.headWords, m.descriptor) := by
    obtain ⟨w, ws, hws⟩ := List.exists_cons_of_ne_nil m.headWords_ne_nil
    have hword := h.isWord
    rw [HeaderSplits, hws, List.tail_cons] at hs
    rw [hws] at hword ⊢
    exact cut?_join hword hs _
  exact readHeader_eq_ok.2 ⟨rfl, _, _, hcut, words_join h.isWord,
    (trim_of_trimmed h.descriptor.trimmed).symm⟩

theorem ReadableHeader.isInkLine_header {m : Method} (h : m.ReadableHeader) :
    IsInkLine m.header := by
  have hhead : '\n' ∉ join [' '] m.headWords :=
    break_notMem_join fun w hw => (h.isWord w hw).2.break_notMem
  rw [header_eq, ← List.append_assoc, ← List.append_assoc]
  apply IsPhrase.isInkLine_append _ h.descriptor
  simp [hhead, headerColon]

end Method

end ErasedBridges
