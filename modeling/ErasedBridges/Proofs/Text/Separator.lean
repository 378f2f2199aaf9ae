import ErasedBridges.Proofs.Text.Words
import ErasedBridges.Text.Lines

/-!
# Prefixes, separators and lines

`cut?` finds the first occurrence of its separator. Lines without line breaks that are joined by
line breaks are found again by splitting.
-/

namespace ErasedBridges.Text

theorem isPrefixOf?_append (start rest : Text) :
    start.isPrefixOf? (start ++ rest) = some rest := by
  induction start with
  | nil => rfl
  | cons c start ih => simp [List.isPrefixOf?, ih]

theorem isPrefixOf?_eq_some {start s rest : Text} :
    start.isPrefixOf? s = some rest ↔ s = start ++ rest := by
  constructor
  · exact fun h => (append_of_isPrefixOf? h).symm
  · rintro rfl
    exact isPrefixOf?_append start rest

theorem isPrefixOf?_eq_none {start s : Text} (h : ∀ rest, s ≠ start ++ rest) :
    start.isPrefixOf? s = none := by
  cases hs : start.isPrefixOf? s with
  | none => rfl
  | some rest => exact absurd (isPrefixOf?_eq_some.1 hs) (h rest)

theorem dropEnd?_eq_some {suffix s rest : Text} :
    dropEnd? suffix s = some rest ↔ s = rest ++ suffix := by
  rw [dropEnd?, List.isSuffixOf?, Option.map_eq_some_iff]
  constructor
  · rintro ⟨r, hr, rfl⟩
    rw [← List.reverse_reverse s, isPrefixOf?_eq_some.1 hr, List.reverse_append,
      List.reverse_reverse]
  · rintro rfl
    exact ⟨rest.reverse, by rw [List.reverse_append, isPrefixOf?_append], List.reverse_reverse _⟩

/-! ### The first occurrence of a separator -/

theorem cut?_append_of_notMem {c : Char} {sep w : Text} (hw : c ∉ w) (s : Text) :
    cut? (c :: sep) (w ++ s) = (cut? (c :: sep) s).map fun (b, r) => (w ++ b, r) := by
  induction w with
  | nil => simp
  | cons d w ih =>
    obtain ⟨hd, hw⟩ := not_or.1 (List.mem_cons.not.1 hw)
    have hp : (c :: sep).isPrefixOf? (d :: (w ++ s)) = none :=
      isPrefixOf?_eq_none fun rest he => hd (List.cons.inj he).1.symm
    rw [List.cons_append, cut?, hp]
    simp [ih hw, Option.map_map, Function.comp_def]

theorem cut?_separator (sep rest : Text) (hsep : sep ≠ []) :
    cut? sep (sep ++ rest) = some ([], rest) := by
  obtain ⟨c, t, rfl⟩ := List.exists_cons_of_ne_nil hsep
  have hp := isPrefixOf?_append (c :: t) rest
  rw [List.cons_append] at hp ⊢
  rw [cut?, hp]

theorem cut?_cons_of_none {sep : Text} {c : Char} {s : Text}
    (h : sep.isPrefixOf? (c :: s) = none) :
    cut? sep (c :: s) = (cut? sep s).map fun (b, r) => (c :: b, r) := by
  rw [cut?, h]

theorem cut?_of_notMem {c : Char} {w : Text} (hw : c ∉ w) : cut? [c] w = none := by
  have hcut : cut? [c] (w ++ []) = (cut? [c] []).map fun (b, r) => (w ++ b, r) :=
    cut?_append_of_notMem hw []
  rw [List.append_nil] at hcut
  exact hcut

theorem cut?_char {c : Char} {w : Text} (hw : c ∉ w) (s : Text) :
    cut? [c] (w ++ c :: s) = some (w, s) := by
  rw [cut?_append_of_notMem hw, show c :: s = [c] ++ s from rfl, cut?_separator _ _ (by simp)]
  simp

theorem notMem_of_cut?_char {c : Char} {s before rest : Text}
    (h : cut? [c] s = some (before, rest)) : c ∉ before := by
  intro hc
  obtain ⟨w, w', rfl, hw⟩ := List.eq_append_cons_of_mem hc
  -- the first occurrence would be before the one that was found
  have hcut := cut?_append h
  rw [List.append_assoc, List.append_assoc, List.cons_append] at hcut
  rw [← hcut, cut?_char hw] at h
  simp at h

theorem length_le_of_cut? {sep s before rest x y : Text} (h : cut? sep s = some (before, rest))
    (hs : s = x ++ (sep ++ y)) : before.length ≤ x.length := by
  induction s generalizing before x with
  | nil =>
    rw [cut?] at h
    split at h
    · cases h; exact Nat.zero_le _
    · cases h
  | cons c s ih =>
    rw [cut?] at h
    split at h
    · cases h; exact Nat.zero_le _
    · next hp =>
      obtain ⟨⟨b, r⟩, hb, he⟩ := Option.map_eq_some_iff.1 h
      cases he
      cases x with
      | nil =>
        rw [hs, List.nil_append, isPrefixOf?_append] at hp
        cases hp
      | cons d x =>
        have hlen := ih hb (List.cons.inj hs).2
        simpa using hlen

/-! ### Lines -/

theorem split_join {c : Char} {lines : List Text} (h : ∀ l ∈ lines, c ∉ l) (hne : lines ≠ []) :
    split (· == c) (join [c] lines) = lines := by
  rw [split_eq_splitOnP, ← List.splitOn_eq_splitOnP, join]
  exact List.splitOn_intercalate c h hne

theorem of_mem_split {p : Char → Bool} {s piece : Text} (h : piece ∈ split p s) :
    ∀ c ∈ piece, p c = false ∧ c ∈ s := by
  induction s generalizing piece with
  | nil => simp_all [split]
  | cons d s ih =>
    rw [split] at h
    split at h
    · rcases List.mem_cons.1 h with rfl | h
      · simp
      · exact fun c hc => ⟨(ih h c hc).1, List.mem_cons_of_mem _ (ih h c hc).2⟩
    · next hd =>
      cases hs : split p s with
      | nil => exact absurd hs (split_ne_nil p s)
      | cons q qs =>
        rw [hs] at h ih
        rcases List.mem_cons.1 h with rfl | h
        · intro c hc
          rcases List.mem_cons.1 hc with rfl | hc
          · exact ⟨by simpa using hd, by simp⟩
          · have hq := ih List.mem_cons_self c hc
            exact ⟨hq.1, List.mem_cons_of_mem _ hq.2⟩
        · have hq := ih (List.mem_cons_of_mem _ h)
          exact fun c hc => ⟨(hq c hc).1, List.mem_cons_of_mem _ (hq c hc).2⟩

theorem dropReturn_append (s : Text) : dropReturn (s ++ ['\r']) = s := by
  rw [dropReturn, dropEnd?_eq_some.2 rfl]
  rfl

theorem dropReturn_of_last_ne {s : Text} (h : s.getLast? ≠ some '\r') : dropReturn s = s := by
  rw [dropReturn]
  cases hd : dropEnd? ['\r'] s with
  | none => rfl
  | some rest =>
    rw [dropEnd?_eq_some.1 hd] at h
    simp at h

/-- A line is kept, or ends in a carriage return that is dropped. -/
theorem dropReturn_cases (s : Text) :
    (dropReturn s = s ∧ s.getLast? ≠ some '\r') ∨ s = dropReturn s ++ ['\r'] := by
  by_cases h : s.getLast? = some '\r'
  · obtain ⟨t, rfl⟩ := List.getLast?_eq_some_iff.1 h
    exact Or.inr (by rw [dropReturn_append])
  · exact Or.inl ⟨dropReturn_of_last_ne h, h⟩

theorem ink_dropReturn (s : Text) : ink (dropReturn s) = ink s := by
  rcases dropReturn_cases s with ⟨h, -⟩ | h
  · rw [h]
  · conv_rhs => rw [h, ink_append]
    rw [show ink ['\r'] = [] from rfl, List.append_nil]

theorem mem_of_mem_dropReturn {c : Char} {s : Text} (h : c ∈ dropReturn s) : c ∈ s := by
  rcases dropReturn_cases s with ⟨hs, -⟩ | hs
  · rwa [hs] at h
  · rw [hs]
    exact List.mem_append_left _ h

end ErasedBridges.Text
