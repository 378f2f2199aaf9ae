import ErasedBridges.Proofs.Descriptor.Text
import ErasedBridges.Proofs.Text.Words

/-!
# Descriptors over a class of characters

The tokens of a text have the characters of the text, and so they have when variables are replaced
by texts of such characters. The class `P` is that of ink where blanks may not come in, and that of
all characters but the line break where a line may not be broken.
-/

namespace ErasedBridges

open Text

/-- A text that is not empty and has only characters of `P`. A word has only ink. -/
def Text.WordOf (P : Char → Prop) (s : Text) : Prop := s ≠ [] ∧ ∀ c ∈ s, P c

abbrev Text.IsInk (c : Char) : Prop := isBlank c = false

abbrev Text.NotBreak (c : Char) : Prop := c ≠ '\n'

theorem Text.notBreak_of_isInk : ∀ c, IsInk c → NotBreak c := by
  rintro c hc rfl
  cases hc

theorem Text.forall_notBreak_iff {s : Text} : (∀ c ∈ s, NotBreak c) ↔ '\n' ∉ s :=
  ⟨fun h hs => h _ hs rfl, fun h _ hc he => h (he ▸ hc)⟩

variable {P : Char → Prop}

theorem Text.IsWord.wordOf {s : Text} (h : IsWord s) (hP : ∀ c, IsInk c → P c) : WordOf P s :=
  ⟨h.1, fun c hc => hP c (h.2 c hc)⟩

namespace Descriptor

theorem wordOf_of_scan {s token rest : Text} (hs : ∀ c ∈ s, P c)
    (h : scan s = some (token, rest)) : WordOf P token ∧ ∀ c ∈ rest, P c := by
  obtain ⟨happend, hne⟩ := scan_append h
  rw [← happend] at hs
  obtain ⟨htoken, hrest⟩ := List.forall_mem_append.1 hs
  exact ⟨⟨hne, htoken⟩, hrest⟩

theorem wordOf_of_parse {s : Text} {d : Descriptor} (hs : ∀ c ∈ s, P c) (h : parse s = .ok d) :
    WordOf P d.text := by
  have htext := text_of_parse h
  refine ⟨?_, htext ▸ hs⟩
  rw [parse] at h
  split at h
  · cases h
    exact List.cons_ne_nil _ _
  · split at h
    · next token hscan =>
      cases h
      exact (scan_append hscan).2
    · cases h

theorem wordOf_of_paramTokens? {s rest : Text} {ds : List Descriptor} (hs : ∀ c ∈ s, P c)
    (h : paramTokens? s = some (ds, rest)) :
    (∀ d ∈ ds, WordOf P d.text) ∧ ∀ c ∈ rest, P c := by
  fun_induction paramTokens? s generalizing ds rest with
  | case1 rest' =>
    cases h
    exact ⟨List.forall_mem_nil _, (List.forall_mem_cons.1 hs).2⟩
  | case2 => cases h
  | case3 s _ token tail hscan ih =>
    obtain ⟨⟨ds', after⟩, hds, he⟩ := Option.map_eq_some_iff.1 h
    cases he
    obtain ⟨htoken, htail⟩ := wordOf_of_scan hs hscan
    obtain ⟨hds', hafter⟩ := ih htail hds
    exact ⟨List.forall_mem_cons.2 ⟨htoken, hds'⟩, hafter⟩

theorem forall_mem_textOf {ds : List Descriptor} (h : ∀ d ∈ ds, WordOf P d.text) :
    ∀ c ∈ textOf ds, P c :=
  List.forall_mem_flatMap.2 fun d hd => (h d hd).2

theorem wordOf_object (hP : ∀ c, IsInk c → P c) {name : Text} (h : ∀ c ∈ name, P c) :
    WordOf P (object name).text := by
  refine ⟨List.cons_ne_nil _ _, List.forall_mem_cons.2 ⟨hP _ rfl, ?_⟩⟩
  exact List.forall_mem_append.2 ⟨h, List.forall_mem_singleton.2 (hP _ rfl)⟩

theorem isWord_object {name : Text} (h : BlankFree name) : IsWord (object name).text :=
  wordOf_object (fun _ hc => hc) h

/-! ### Walks -/

/-- A walk over a text of characters of `P` gives a word of them, if it gives anything. -/
def GivesWord (P : Char → Prop) (walk : Text → Walk Text) (s : Text) : Prop :=
  (∀ c ∈ s, P c) → ∀ t, (walk s).result = some t → WordOf P t

theorem GivesWord.cons {walk : Text → Walk Text} {c : Char} {s : Text}
    (h : GivesWord P walk s) (hs : ∀ d ∈ c :: s, P d) {t : Text}
    (ht : ((walk s).cons c).result = some t) : WordOf P t := by
  obtain ⟨hc, hs⟩ := List.forall_mem_cons.1 hs
  obtain ⟨u, hu, rfl⟩ := Option.map_eq_some_iff.1 ht
  exact ⟨List.cons_ne_nil _ _, List.forall_mem_cons.2 ⟨hc, (h hs u hu).2⟩⟩

theorem GivesWord.bind {walk walk' : Text → Walk Text} {s s' : Text} (h : GivesWord P walk s)
    (h' : GivesWord P walk' s') (hs : ∀ c ∈ s, P c) (hs' : ∀ c ∈ s', P c) {t : Text}
    (ht : ((walk s).bind fun u => (walk' s').map (u ++ ·)).result = some t) : WordOf P t := by
  rw [Walk.bind] at ht
  split at ht
  · cases ht
  · next u hu =>
    obtain ⟨v, hv, rfl⟩ := Option.map_eq_some_iff.1 ht
    have hword := h hs u hu
    exact ⟨List.append_ne_nil_of_left_ne_nil hword.1 v,
      List.forall_mem_append.2 ⟨hword.2, (h' hs' v hv).2⟩⟩

variable {f : Text → Option Text}

mutual

theorem givesWord_walkToken (hP : ∀ c, IsInk c → P c)
    (hf : ∀ name text, f name = some text → WordOf P text) (s : Text) :
    GivesWord P (walkToken f) s := by
  intro hs t ht
  rw [walkToken.eq_def] at ht
  split at ht
  · cases ht
  · next s => exact (givesWord_walkToken hP hf s).cons hs ht
  · split at ht
    · next name _ =>
      cases ht
      cases hname : f name with
      | none => exact ⟨List.cons_ne_nil _ _, hs⟩
      | some text => exact hf name text hname
    · cases ht
  · next s => exact (givesWord_walkClass hP hf s).cons hs ht
  · next hnil _ _ _ =>
    cases ht
    exact ⟨hnil, hs⟩
termination_by 3 * s.length
decreasing_by all_goals grind

theorem givesWord_walkClass (hP : ∀ c, IsInk c → P c)
    (hf : ∀ name text, f name = some text → WordOf P text) (s : Text) :
    GivesWord P (walkClass f) s := by
  intro hs t ht
  rw [walkClass.eq_def] at ht
  split at ht
  · cases ht
  · next s => exact (givesWord_walkArguments hP hf s).cons hs ht
  · split at ht
    · cases ht
      exact ⟨List.cons_ne_nil _ _, List.forall_mem_singleton.2 (hP _ rfl)⟩
    · cases ht
  · next s _ _ => exact (givesWord_walkClass hP hf s).cons hs ht
termination_by 3 * s.length
decreasing_by all_goals grind

theorem givesWord_walkArguments (hP : ∀ c, IsInk c → P c)
    (hf : ∀ name text, f name = some text → WordOf P text) (s : Text) :
    GivesWord P (walkArguments f) s := by
  intro hs t ht
  rw [walkArguments.eq_def] at ht
  split at ht
  · cases ht
  · next s => exact (givesWord_walkClass hP hf s).cons hs ht
  · next s => exact (givesWord_walkArguments hP hf s).cons hs ht
  · next s => exact (givesWord_walkBound hP hf s).cons hs ht
  · next s => exact (givesWord_walkBound hP hf s).cons hs ht
  · exact givesWord_walkBound hP hf s hs t ht
termination_by 3 * s.length + 2
decreasing_by all_goals grind

theorem givesWord_walkBound (hP : ∀ c, IsInk c → P c)
    (hf : ∀ name text, f name = some text → WordOf P text) (s : Text) :
    GivesWord P (walkBound f) s := by
  intro hs t ht
  rw [walkBound.eq_def] at ht
  split at ht
  · cases ht
  · next token rest hscan =>
    have := length_scan hscan
    have := length_rest_lt hscan
    obtain ⟨htoken, hrest⟩ := wordOf_of_scan hs hscan
    exact (givesWord_walkToken hP hf token).bind (givesWord_walkArguments hP hf rest)
      htoken.2 hrest ht
termination_by 3 * s.length + 1
decreasing_by all_goals omega

end

section

variable (hP : ∀ c, IsInk c → P c) (hf : ∀ name text, f name = some text → WordOf P text)

include hP hf

theorem wordOf_of_mapVariables {d d' : Descriptor} (hd : WordOf P d.text)
    (h : d.mapVariables f = .ok d') : WordOf P d'.text :=
  givesWord_walkToken hP hf d.text hd.2 d'.text (mapVariables_eq_ok.1 h)

theorem wordOf_of_mapM_mapVariables {ds ds' : List Descriptor}
    (hds : ∀ d ∈ ds, WordOf P d.text) (h : ds.mapM (mapVariables f) = .ok ds') :
    ∀ d ∈ ds', WordOf P d.text := by
  intro d' hd'
  obtain ⟨d, hd, hmap⟩ := exists_of_mem_mapM h hd'
  exact wordOf_of_mapVariables hP hf (hds d hd) hmap

end

end Descriptor

namespace MethodDescriptor

theorem wordOf_of_parse {s : Text} {d : MethodDescriptor} (hs : ∀ c ∈ s, P c)
    (h : parse s = .ok d) :
    (∀ type ∈ d.params, WordOf P type.text) ∧ WordOf P d.returnType.text := by
  rw [parse.eq_def] at h
  split at h
  · next inner =>
    split at h
    · next params rest hparams =>
      obtain ⟨hwords, hrest⟩ :=
        Descriptor.wordOf_of_paramTokens? (List.forall_mem_cons.1 hs).2 hparams
      split at h
      · next returnType hreturn =>
        cases h
        exact ⟨hwords, Descriptor.wordOf_of_parse hrest hreturn⟩
      · cases h
    · cases h
  · cases h

theorem forall_mem_text (hP : ∀ c, IsInk c → P c) {m : MethodDescriptor}
    (hparams : ∀ d ∈ m.params, WordOf P d.text) (hreturn : WordOf P m.returnType.text) :
    ∀ c ∈ m.text, P c := by
  refine List.forall_mem_cons.2 ⟨hP _ rfl, List.forall_mem_append.2 ⟨?_, ?_⟩⟩
  · exact Descriptor.forall_mem_textOf hparams
  · exact List.forall_mem_cons.2 ⟨hP _ rfl, hreturn.2⟩

end MethodDescriptor

end ErasedBridges
