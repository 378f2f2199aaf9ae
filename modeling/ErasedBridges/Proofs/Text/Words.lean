import ErasedBridges.Proofs.Text.Ink

/-!
# Words

`words_append` splits a text at a boundary between ink and blanks, and everything else about words
follows from it: the words of a text hold its ink, and words joined by single spaces are found
again.
-/

namespace ErasedBridges.Text

theorem split_eq_splitOnP (p : Char → Bool) (s : Text) : split p s = s.splitOnP p := by
  induction s with
  | nil => rfl
  | cons c s ih =>
    rw [List.splitOnP_cons_eq_if_modifyHead, ← ih, split]
    by_cases hp : p c = true
    · rw [if_pos hp, if_pos hp]
    · rw [if_neg hp, if_neg hp]
      cases hs : split p s with
      | nil => exact absurd hs (split_ne_nil p s)
      | cons piece pieces => rfl

theorem split_append_cons {p : Char → Bool} {c : Char} (hc : p c = true) (s t : Text) :
    split p (s ++ c :: t) = split p s ++ split p t := by
  rw [split_eq_splitOnP, split_eq_splitOnP, split_eq_splitOnP, List.splitOnP_append_cons s t hc]

theorem words_cons_blank {c : Char} (hc : isBlank c = true) (s : Text) :
    words (c :: s) = words s := by
  rw [words, split, if_pos hc]
  rfl

theorem words_blank_append {b : Text} (hb : Blank b) (s : Text) : words (b ++ s) = words s := by
  induction b with
  | nil => rfl
  | cons c b ih =>
    obtain ⟨hc, hb⟩ := List.forall_mem_cons.1 hb
    rw [List.cons_append, words_cons_blank hc, ih hb]

theorem words_of_isWord {w : Text} (hw : IsWord w) : words w = [w] := by
  rw [words, split_eq_splitOnP, List.splitOnP_eq_singleton hw.2]
  simp [hw.1]

theorem words_append_cons {c : Char} (hc : isBlank c = true) (s t : Text) :
    words (s ++ c :: t) = words s ++ words t := by
  rw [words, split_append_cons hc, List.filter_append, words, words]

/-- A text in which no word goes on: it is empty or begins with a blank. -/
def Boundary (s : Text) : Prop := ∀ c, s.head? = some c → isBlank c = true

theorem words_append {w s : Text} (hw : IsWord w) (hs : Boundary s) :
    words (w ++ s) = w :: words s := by
  cases s with
  | nil => rw [List.append_nil, words_of_isWord hw]; rfl
  | cons c s =>
    have hc : isBlank c = true := hs c rfl
    rw [words_append_cons hc, words_of_isWord hw, words_cons_blank hc, List.singleton_append]

/-- Every text is blank, or blanks, a word and a boundary. -/
theorem blank_or_word (s : Text) : Blank s ∨
    ∃ b w t, s = b ++ (w ++ t) ∧ Blank b ∧ IsWord w ∧ Boundary t := by
  have hb : Blank (s.takeWhile isBlank) := fun c hc => List.mem_takeWhile_imp hc
  by_cases hs : s.dropWhile isBlank = []
  · exact Or.inl (List.dropWhile_eq_nil_iff.1 hs)
  · refine Or.inr ⟨_, (s.dropWhile isBlank).takeWhile (!isBlank ·),
      (s.dropWhile isBlank).dropWhile (!isBlank ·), ?_, hb, ⟨?_, ?_⟩, ?_⟩
    · rw [List.takeWhile_append_dropWhile, List.takeWhile_append_dropWhile]
    · intro he
      have hhead := List.head_dropWhile_not isBlank hs
      obtain ⟨c, t, ht⟩ := List.exists_cons_of_ne_nil hs
      simp only [ht, List.head_cons] at hhead
      simp [ht, hhead] at he
    · intro c hc
      simpa using List.mem_takeWhile_imp hc
    · intro c hc
      have h := List.head?_dropWhile_not (!isBlank ·) (s.dropWhile isBlank)
      rw [hc] at h
      simpa using h

theorem words_of_blank {s : Text} (h : Blank s) : words s = [] := by
  have hw := words_blank_append h []
  rwa [List.append_nil] at hw

/-- The first word of a text stands before a boundary, and the other words after it. -/
theorem words_eq_cons {s w : Text} {ws : List Text} (h : words s = w :: ws) :
    ∃ b t, s = b ++ (w ++ t) ∧ Blank b ∧ IsWord w ∧ Boundary t ∧ words t = ws := by
  rcases blank_or_word s with hs | ⟨b, v, t, rfl, hb, hv, ht⟩
  · rw [words_of_blank hs] at h
    cases h
  · rw [words_blank_append hb, words_append hv ht] at h
    obtain ⟨rfl, rfl⟩ := List.cons.inj h
    exact ⟨b, t, rfl, hb, hv, ht, rfl⟩

theorem words_eq_nil {s : Text} (h : words s = []) : Blank s := by
  rcases blank_or_word s with hs | ⟨b, w, t, rfl, hb, hw, ht⟩
  · exact hs
  · rw [words_blank_append hb, words_append hw ht] at h
    cases h

theorem isWord_of_mem_words {s w : Text} (h : w ∈ words s) : IsWord w := by
  induction hs : words s generalizing s with
  | nil => rw [hs] at h; cases h
  | cons v vs ih =>
    obtain ⟨b, t, -, -, hv, -, ht⟩ := words_eq_cons hs
    rw [hs] at h
    rcases List.mem_cons.1 h with rfl | h
    · exact hv
    · exact ih (ht ▸ h) ht

theorem flatten_words (s : Text) : (words s).flatten = ink s := by
  induction hs : words s generalizing s with
  | nil => rw [ink_blank (words_eq_nil hs)]; rfl
  | cons w ws ih =>
    obtain ⟨b, t, rfl, hb, hw, -, ht⟩ := words_eq_cons hs
    rw [List.flatten_cons, ih t ht, ink_append, ink_append, ink_blank hb, ink_blankFree hw.2,
      List.nil_append]

theorem words_append_blank (s : Text) {b : Text} (hb : Blank b) : words (s ++ b) = words s := by
  cases b with
  | nil => rw [List.append_nil]
  | cons c b =>
    obtain ⟨hc, hb⟩ := List.forall_mem_cons.1 hb
    rw [words_append_cons hc, words_of_blank hb, List.append_nil]

theorem words_trim (s : Text) : words (trim s) = words s := by
  obtain ⟨b, e, hb, he, hs⟩ := exists_blanks_trim s
  conv_rhs => rw [hs, words_blank_append hb, words_append_blank _ he]

theorem words_ne_nil {s : Text} (hs : EndsInInk s) (hne : s ≠ []) : words s ≠ [] := by
  intro h
  have hlast := List.getLast?_eq_some_getLast hne
  have hb := words_eq_nil h _ (List.mem_of_getLast? hlast)
  rw [hs _ hlast] at hb
  cases hb

/-- In a text that begins with no word, each word has a blank before it. -/
theorem exists_of_mem_words {s w : Text} (hs : Boundary s) (h : w ∈ words s) :
    ∃ x c y, s = x ++ c :: (w ++ y) ∧ isBlank c = true ∧ Boundary y := by
  induction hws : words s generalizing s with
  | nil => rw [hws] at h; cases h
  | cons v vs ih =>
    obtain ⟨b, t, rfl, hb, hv, ht, hvs⟩ := words_eq_cons hws
    rw [hws] at h
    rcases List.mem_cons.1 h with rfl | h
    · rcases List.eq_nil_or_concat b with rfl | ⟨b, c, rfl⟩
      · obtain ⟨d, u, rfl⟩ := List.exists_cons_of_ne_nil hv.1
        have hd := hv.2 d (by simp)
        rw [hs d rfl] at hd
        cases hd
      · exact ⟨b, c, t, by simp, hb c (by simp), ht⟩
    · obtain ⟨x, c, y, hx, hc, hy⟩ := ih ht (hvs ▸ h) hvs
      exact ⟨b ++ (v ++ x), c, y, by rw [hx]; simp, hc, hy⟩

/-- A word after the first has a blank before it. -/
theorem exists_of_mem_tail_words {s w : Text} (h : w ∈ (words s).tail) :
    ∃ x c y, s = x ++ c :: (w ++ y) ∧ isBlank c = true ∧ Boundary y := by
  cases hws : words s with
  | nil => rw [hws] at h; cases h
  | cons v vs =>
    obtain ⟨b, t, rfl, -, -, ht, hvs⟩ := words_eq_cons hws
    rw [hws, List.tail_cons] at h
    obtain ⟨x, c, y, hx, hc, hy⟩ := exists_of_mem_words ht (hvs ▸ h)
    exact ⟨b ++ (v ++ x), c, y, by rw [hx]; simp, hc, hy⟩

/-! ### Joined words -/

@[simp] theorem join_singleton (sep s : Text) : join sep [s] = s := List.intercalate_singleton

@[simp] theorem join_cons_cons (sep s t : Text) (ts : List Text) :
    join sep (s :: t :: ts) = s ++ (sep ++ join sep (t :: ts)) := by
  rw [join, List.intercalate_cons_cons, List.append_assoc, join]

theorem break_notMem_join {ws : List Text} (h : ∀ w ∈ ws, '\n' ∉ w) : '\n' ∉ join [' '] ws := by
  induction ws with
  | nil => rintro ⟨⟩
  | cons w ws ih =>
    obtain ⟨hw, hws⟩ := List.forall_mem_cons.1 h
    cases ws with
    | nil => rwa [join_singleton]
    | cons v vs =>
      rw [join_cons_cons, List.mem_append, List.mem_append]
      exact not_or.2 ⟨hw, not_or.2 ⟨by decide, ih hws⟩⟩

theorem words_join {ws : List Text} (h : ∀ w ∈ ws, IsWord w) : words (join [' '] ws) = ws := by
  induction ws with
  | nil => rfl
  | cons w ws ih =>
    obtain ⟨hw, hws⟩ := List.forall_mem_cons.1 h
    cases ws with
    | nil => rw [join_singleton, words_of_isWord hw]
    | cons v vs =>
      rw [join_cons_cons, List.singleton_append,
        words_append hw (by rintro c ⟨⟩; rfl), words_cons_blank rfl, ih hws]

theorem ink_join {ws : List Text} (h : ∀ w ∈ ws, IsWord w) : ink (join [' '] ws) = ws.flatten := by
  rw [← flatten_words, words_join h]

theorem endsInInk_join {ws : List Text} (h : ∀ w ∈ ws, IsWord w) :
    EndsInInk (join [' '] ws) := by
  induction ws with
  | nil => rintro c ⟨⟩
  | cons w ws ih =>
    obtain ⟨hw, hws⟩ := List.forall_mem_cons.1 h
    cases ws with
    | nil => rw [join_singleton]; exact hw.2.trimmed.2
    | cons v vs =>
      obtain ⟨c, u, hu⟩ := List.exists_cons_of_ne_nil (hws v (by simp)).1
      rw [join_cons_cons, ← List.append_assoc]
      apply endsInInk_append _ (ih hws)
      cases vs with
      | nil => simp [hu]
      | cons x xs => simp [hu]

end ErasedBridges.Text
