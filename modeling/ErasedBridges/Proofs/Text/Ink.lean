import ErasedBridges.Text.Blank
import Mathlib

/-!
# Ink

The ink of a text is what is left of it without blanks. Trimming keeps the ink, and a text that
begins and ends in ink is found again by trimming.
-/

namespace ErasedBridges.Text

def Blank (s : Text) : Prop := ∀ c ∈ s, isBlank c = true

def BlankFree (s : Text) : Prop := ∀ c ∈ s, isBlank c = false

def IsWord (s : Text) : Prop := s ≠ [] ∧ BlankFree s

/-- The last character is no blank. -/
def EndsInInk (s : Text) : Prop := ∀ c, s.getLast? = some c → isBlank c = false

/-- Neither the first nor the last character is a blank. -/
def Trimmed (s : Text) : Prop := (∀ c, s.head? = some c → isBlank c = false) ∧ EndsInInk s

def ink (s : Text) : Text := s.filter (!isBlank ·)

/-- Looks at the characters of the text only, and not at all that there are. -/
instance (s : Text) (p : Char → Prop) [DecidablePred p] : Decidable (∀ c ∈ s, p c) :=
  List.decidableBAll p s

instance : DecidablePred BlankFree := fun s =>
  inferInstanceAs (Decidable (∀ c ∈ s, isBlank c = false))

instance : DecidablePred IsWord := fun s => inferInstanceAs (Decidable (s ≠ [] ∧ BlankFree s))

theorem BlankFree.trimmed {s : Text} (h : BlankFree s) : Trimmed s :=
  ⟨fun c hc => h c (List.mem_of_head? hc), fun c hc => h c (List.mem_of_getLast? hc)⟩

theorem BlankFree.append {s t : Text} (hs : BlankFree s) (ht : BlankFree t) :
    BlankFree (s ++ t) := by
  intro c hc
  rcases List.mem_append.1 hc with h | h
  · exact hs c h
  · exact ht c h

theorem BlankFree.cons {c : Char} {s : Text} (hc : isBlank c = false) (hs : BlankFree s) :
    BlankFree (c :: s) :=
  List.forall_mem_cons.2 ⟨hc, hs⟩

theorem BlankFree.break_notMem {s : Text} (h : BlankFree s) : '\n' ∉ s := fun hc =>
  absurd (h _ hc) (by decide)

theorem endsInInk_append {s t : Text} (hne : t ≠ []) (ht : EndsInInk t) : EndsInInk (s ++ t) := by
  intro c hc
  rw [List.getLast?_append_of_ne_nil s hne] at hc
  exact ht c hc

theorem EndsInInk.last_ne {s : Text} (h : EndsInInk s) : s.getLast? ≠ some '\r' := fun hc =>
  absurd (h _ hc) (by decide)

/-! ### Ink -/

@[simp] theorem ink_append (s t : Text) : ink (s ++ t) = ink s ++ ink t := List.filter_append ..

theorem ink_blank {s : Text} (h : Blank s) : ink s = [] :=
  List.filter_eq_nil_iff.2 fun c hc => by simp [h c hc]

theorem ink_blankFree {s : Text} (h : BlankFree s) : ink s = s :=
  List.filter_eq_self.2 fun c hc => by simp [h c hc]

theorem head?_ink {s : Text} {c : Char} (hs : s.head? = some c) (hc : isBlank c = false) :
    (ink s).head? = some c := by
  cases s with
  | nil => cases hs
  | cons d s =>
    cases hs
    rw [ink, List.filter_cons_of_pos (by simp [hc])]
    rfl

/-! ### Trimming -/

theorem trimEnd_eq_rdropWhile (s : Text) : trimEnd s = s.rdropWhile isBlank := rfl

theorem exists_blank_trimEnd (s : Text) : ∃ b, Blank b ∧ s = trimEnd s ++ b := by
  refine ⟨(s.reverse.takeWhile isBlank).reverse, ?_, ?_⟩
  · exact fun c hc => List.mem_takeWhile_imp (List.mem_reverse.1 hc)
  · rw [trimEnd, ← List.reverse_append, List.takeWhile_append_dropWhile, List.reverse_reverse]

theorem exists_blanks_trim (s : Text) : ∃ b e, Blank b ∧ Blank e ∧ s = b ++ (trim s ++ e) := by
  obtain ⟨e, he, hs⟩ := exists_blank_trimEnd s
  refine ⟨(trimEnd s).takeWhile isBlank, e, fun c hc => List.mem_takeWhile_imp hc, he, ?_⟩
  rw [← List.append_assoc, trim, trimStart, List.takeWhile_append_dropWhile, ← hs]

theorem ink_trimEnd (s : Text) : ink (trimEnd s) = ink s := by
  obtain ⟨b, hb, hs⟩ := exists_blank_trimEnd s
  conv_rhs => rw [hs, ink_append, ink_blank hb, List.append_nil]

theorem ink_trim (s : Text) : ink (trim s) = ink s := by
  obtain ⟨b, e, hb, he, hs⟩ := exists_blanks_trim s
  conv_rhs => rw [hs, ink_append, ink_append, ink_blank hb, ink_blank he, List.append_nil,
    List.nil_append]

theorem mem_of_mem_trimEnd {c : Char} {s : Text} (h : c ∈ trimEnd s) : c ∈ s :=
  (List.rdropWhile_prefix isBlank s).subset h

theorem mem_of_mem_trim {c : Char} {s : Text} (h : c ∈ trim s) : c ∈ s :=
  mem_of_mem_trimEnd ((List.dropWhile_suffix isBlank).subset h)

theorem endsInInk_trimEnd (s : Text) : EndsInInk (trimEnd s) := by
  intro c hc
  have hne : s.rdropWhile isBlank ≠ [] := by
    rintro h
    rw [trimEnd_eq_rdropWhile, h] at hc
    cases hc
  have hlast := List.rdropWhile_last_not isBlank s hne
  rw [trimEnd_eq_rdropWhile, List.getLast?_eq_some_getLast hne, Option.some.injEq] at hc
  rw [← hc]
  simpa using hlast

theorem trimEnd_append_blank {s b : Text} (hs : EndsInInk s) (hb : Blank b) :
    trimEnd (s ++ b) = s := by
  have hdrop : (b.reverse ++ s.reverse).dropWhile isBlank = s.reverse.dropWhile isBlank :=
    List.dropWhile_append_of_pos fun c hc => hb c (List.mem_reverse.1 hc)
  have hself : s.reverse.dropWhile isBlank = s.reverse := by
    cases hr : s.reverse with
    | nil => rfl
    | cons c t =>
      have hc : s.getLast? = some c := by rw [List.getLast?_eq_head?_reverse, hr]; rfl
      exact List.dropWhile_cons_of_neg (by simp [hs c hc])
  rw [trimEnd, List.reverse_append, hdrop, hself, List.reverse_reverse]

theorem trimEnd_of_endsInInk {s : Text} (hs : EndsInInk s) : trimEnd s = s := by
  simpa using trimEnd_append_blank hs (b := []) (by simp [Blank])

theorem trimStart_of_head {s : Text} (hs : ∀ c, s.head? = some c → isBlank c = false) :
    trimStart s = s := by
  cases s with
  | nil => rfl
  | cons c s => exact List.dropWhile_cons_of_neg (by simp [hs c rfl])

theorem trimmed_trim (s : Text) : Trimmed (trim s) := by
  constructor
  · intro c hc
    have h := List.head?_dropWhile_not isBlank (trimEnd s)
    change (trim s).head? = some c at hc
    rw [trim, trimStart] at hc
    rw [hc] at h
    simpa using h
  · intro c hc
    obtain ⟨b, hb⟩ := List.dropWhile_suffix (l := trimEnd s) isBlank
    apply endsInInk_trimEnd s c
    change b ++ trim s = trimEnd s at hb
    have hne : trim s ≠ [] := by
      rintro h
      rw [h] at hc
      cases hc
    rw [← hb, List.getLast?_append_of_ne_nil b hne, hc]

theorem trim_blank_append {b s : Text} (hb : Blank b) (hs : Trimmed s) : trim (b ++ s) = s := by
  cases s with
  | nil =>
    rw [List.append_nil, trim, trimStart, List.dropWhile_eq_nil_iff]
    exact fun c hc => hb c (mem_of_mem_trimEnd hc)
  | cons c s =>
    rw [trim, trimEnd_of_endsInInk (endsInInk_append (by simp) hs.2), trimStart,
      List.dropWhile_append_of_pos hb]
    exact trimStart_of_head hs.1

theorem trim_of_trimmed {s : Text} (hs : Trimmed s) : trim s = s := by
  simpa using trim_blank_append (b := []) (by simp [Blank]) hs

theorem blank_of_trim_eq_nil {s : Text} (h : trim s = []) : Blank s := by
  have hi : ink s = [] := by rw [← ink_trim, h]; rfl
  intro c hc
  simpa using List.filter_eq_nil_iff.1 hi c hc

/-- After a start that ends in a space, a text that ends in ink goes on and ends in ink. -/
theorem rest_of_endsInInk {start rest : Text} (hs : EndsInInk (start ++ rest))
    (hlast : start.getLast? = some ' ') : rest ≠ [] ∧ EndsInInk rest := by
  constructor
  · rintro rfl
    rw [List.append_nil] at hs
    exact absurd (hs _ hlast) (by decide)
  · intro c hc
    apply hs
    rw [List.getLast?_append, hc]
    rfl

end ErasedBridges.Text
