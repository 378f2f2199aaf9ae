import ErasedBridges.Proofs.Descriptor.Text
import ErasedBridges.Proofs.Library.Layout

/-!
# Tokens

A token is a text that a scan takes off as a whole. What a scan takes off any text is a token, and
it is taken off again whatever follows it, so a list of tokens is read exactly from their texts.
-/

namespace ErasedBridges.Descriptor

/-- All of the text is one token. -/
def IsToken (d : Descriptor) : Prop := scan d.text = some (d.text, [])

theorem scanName_self {depth : Nat} {s name rest : Text}
    (h : scanName depth s = some (name, rest)) : scanName depth name = some (name, []) := by
  fun_induction scanName depth s generalizing name rest with
  | case1 | case3 => cases h
  | case2 =>
    cases h
    rfl
  | case4 depth s ih | case5 depth s ih | case6 depth c s _ _ _ _ ih =>
    obtain ⟨⟨n, r⟩, hs, he⟩ := Option.map_eq_some_iff.1 h
    cases he
    simp_all [scanName]

theorem isToken_of_scan {s token rest : Text} (h : scan s = some (token, rest)) :
    IsToken ⟨token⟩ := by
  rw [IsToken]
  fun_induction scan s generalizing token rest with
  | case1 | case5 => cases h
  | case2 s ih =>
    obtain ⟨⟨t, r⟩, hs, he⟩ := Option.map_eq_some_iff.1 h
    cases he
    rw [scan, ih hs]
    rfl
  | case3 c s hne hbase =>
    cases h
    rw [scan, if_pos hbase]
    exact hne
  | case4 c s hne hbase hclass =>
    obtain ⟨⟨n, r⟩, hs, he⟩ := Option.map_eq_some_iff.1 h
    cases he
    rw [scan, if_neg hbase, if_pos hclass, scanName_self hs]
    · rfl
    · exact hne

variable {d : Descriptor}

namespace IsToken

theorem scan_append (h : d.IsToken) (more : Text) :
    scan (d.text ++ more) = some (d.text, more) := scan_append_of_eq more h

theorem ne_nil (h : d.IsToken) : d.text ≠ [] := (Descriptor.scan_append h).2

theorem beginsToken (h : d.IsToken) : d.BeginsToken := fun _ hc => opensToken_of_scan h hc

/-- The first character of a token is not one that stands between tokens. -/
theorem head_append_ne (h : d.IsToken) {c : Char} (hc : opensToken c = false) (more : Text) :
    (d.text ++ more).head? ≠ some c := by
  intro he
  rw [List.head?_append_of_ne_nil _ h.ne_nil] at he
  rw [h.beginsToken c he] at hc
  cases hc

end IsToken

/-- A list of descriptors is read from a text exactly if these are tokens and the text is theirs. -/
theorem tokens?_eq_some_iff {s : Text} {ds : List Descriptor} :
    tokens? s = some ds ↔ s = textOf ds ∧ ∀ d ∈ ds, d.IsToken := by
  constructor
  · intro h
    refine ⟨tokens?_eq_some h, ?_⟩
    fun_induction tokens? s generalizing ds with
    | case1 =>
      cases h
      exact List.forall_mem_nil _
    | case2 => cases h
    | case3 s _ token rest hscan ih =>
      obtain ⟨ds', hds, rfl⟩ := Option.map_eq_some_iff.1 h
      exact List.forall_mem_cons.2 ⟨isToken_of_scan hscan, ih hds⟩
  · rintro ⟨rfl, hds⟩
    induction ds with
    | nil =>
      rw [textOf_nil, tokens?]
      rfl
    | cons d ds ih =>
      obtain ⟨hd, hds⟩ := List.forall_mem_cons.1 hds
      rw [textOf_cons, tokens?]
      split
      · next hempty =>
        rw [List.isEmpty_iff, List.append_eq_nil_iff] at hempty
        exact absurd hempty.1 hd.ne_nil
      · split
        · next hnone =>
          rw [hd.scan_append] at hnone
          cases hnone
        · next token rest hscan =>
          rw [hd.scan_append] at hscan
          cases hscan
          rw [ih hds]
          rfl

/-- Parameters end at the first closing parenthesis where no token can begin. -/
theorem paramTokens?_eq_some_iff {s after : Text} {ds : List Descriptor} :
    paramTokens? s = some (ds, after) ↔ s = textOf ds ++ ')' :: after ∧ ∀ d ∈ ds, d.IsToken := by
  constructor
  · intro h
    refine ⟨paramTokens?_eq_some h, ?_⟩
    fun_induction paramTokens? s generalizing ds after with
    | case1 =>
      cases h
      exact List.forall_mem_nil _
    | case2 => cases h
    | case3 s _ token rest hscan ih =>
      obtain ⟨⟨ds', after'⟩, hds, he⟩ := Option.map_eq_some_iff.1 h
      cases he
      exact List.forall_mem_cons.2 ⟨isToken_of_scan hscan, ih hds⟩
  · rintro ⟨rfl, hds⟩
    induction ds with
    | nil => rw [textOf_nil, List.nil_append, paramTokens?]
    | cons d ds ih =>
      obtain ⟨hd, hds⟩ := List.forall_mem_cons.1 hds
      rw [textOf_cons, List.append_assoc, paramTokens?.eq_def]
      split
      · next t ht => exact absurd (by rw [ht]; rfl) (hd.head_append_ne (c := ')') rfl _)
      · split
        · next hnone =>
          rw [hd.scan_append] at hnone
          cases hnone
        · next token rest hscan =>
          rw [hd.scan_append] at hscan
          cases hscan
          rw [ih hds]
          rfl

/-- `V` is read as a descriptor by itself, and everything else that is read is one token. -/
theorem parse_eq_ok_iff {s : Text} {d : Descriptor} :
    parse s = .ok d ↔ s = d.text ∧ (d = void ∨ d.IsToken) := by
  constructor
  · intro h
    refine ⟨(text_of_parse h).symm, ?_⟩
    rw [parse] at h
    split at h
    · cases h
      exact Or.inl rfl
    · split at h
      · next token hscan =>
        cases h
        exact Or.inr (isToken_of_scan hscan)
      · cases h
  · rintro ⟨rfl, rfl | hd⟩
    · rfl
    · have hne : d.text ≠ ['V'] := by
        intro he
        rw [IsToken, he] at hd
        cases hd
      rw [parse, if_neg hne, hd]

theorem isToken_iff_parse : d.IsToken ↔ parse d.text = .ok d ∧ d ≠ void := by
  constructor
  · intro hd
    refine ⟨parse_eq_ok_iff.2 ⟨rfl, Or.inr hd⟩, ?_⟩
    rintro rfl
    cases hd
  · rintro ⟨hparse, hne⟩
    exact (parse_eq_ok_iff.1 hparse).2.resolve_left hne

theorem parseList_eq_ok_iff {s : Text} {ds : List Descriptor} :
    parseList s = .ok ds ↔ s = textOf ds ∧ ∀ d ∈ ds, d.IsToken := by
  rw [← tokens?_eq_some_iff, parseList]
  split
  · next ds' hds => rw [hds, Except.ok.injEq, Option.some_inj]
  · next hnone => exact iff_of_false nofun (by simp [hnone])

/-- Read from its own text, and a type that a value can have. -/
def IsFieldType (d : Descriptor) : Prop := parse d.text = .ok d ∧ d ≠ void

/-- A name without brackets is closed by the first semicolon after it. -/
theorem scanName_bracketFree {name : Text} (h : Text.BracketFree name) :
    scanName 0 (name ++ [';']) = some (name ++ [';'], []) := by
  induction name with
  | nil => rfl
  | cons c name ih =>
    obtain ⟨⟨hopen, hclose, hend⟩, hname⟩ := List.forall_mem_cons.1 h
    rw [List.cons_append, scanName, ih hname]
    · rfl
    all_goals simp_all

theorem isToken_object {name : Text} (h : Text.BracketFree name) : (object name).IsToken := by
  rw [IsToken, object, scan, scanName_bracketFree h]
  · rfl
  · decide

/-- The type arguments of a class do not belong to its name. -/
theorem className?_arguments {name arguments : Text} (hname : Text.BracketFree name)
    (harguments : arguments = [] ∨ arguments.head? = some '<') :
    className? ⟨'L' :: (name ++ arguments ++ [';'])⟩ = some name := by
  have hplain : ∀ c ∈ name, (c != '<') = true := fun c hc => bne_iff_ne.2 (hname c hc).1
  have hstop : arguments.takeWhile (· != '<') = [] := by
    rcases harguments with rfl | harguments
    · rfl
    · obtain ⟨t, rfl⟩ := List.head?_eq_some_iff.1 harguments
      rfl
  calc className? ⟨'L' :: (name ++ arguments ++ [';'])⟩
      = (Text.dropEnd? [';'] (name ++ arguments ++ [';'])).map (·.takeWhile (· != '<')) := rfl
    _ = some ((name ++ arguments).takeWhile (· != '<')) := by
        rw [Text.dropEnd?_eq_some.2 rfl, Option.map_some]
    _ = some name := by
        rw [List.takeWhile_append_of_pos hplain, hstop, List.append_nil]

theorem className?_object {name : Text} (h : Text.BracketFree name) :
    (object name).className? = some name := by
  have hname := className?_arguments h (Or.inl rfl)
  rw [List.append_nil] at hname
  exact hname

end ErasedBridges.Descriptor

namespace ErasedBridges.MethodDescriptor

open Descriptor

/-- A method descriptor is read from its text exactly if its parameters are tokens and its return
type is read from its own. -/
theorem parse_eq_ok_iff {s : Text} {d : MethodDescriptor} :
    parse s = .ok d ↔ s = d.text ∧ (∀ type ∈ d.params, type.IsToken) ∧
      Descriptor.parse d.returnType.text = .ok d.returnType := by
  constructor
  · intro h
    refine ⟨(text_of_parse h).symm, ?_⟩
    rw [parse.eq_def] at h
    split at h
    · split at h
      · next params rest hparams =>
        split at h
        · next returnType hreturn =>
          cases h
          refine ⟨(paramTokens?_eq_some_iff.1 hparams).2, ?_⟩
          rw [Descriptor.text_of_parse hreturn]
          exact hreturn
        · cases h
      · cases h
    · cases h
  · rintro ⟨rfl, hparams, hreturn⟩
    rw [text, parse, paramTokens?_eq_some_iff.2 ⟨rfl, hparams⟩]
    dsimp only
    rw [hreturn]

/-- The parameters are types that a value can have, and the return type is `V` or another. -/
structure WellFormed (m : MethodDescriptor) : Prop where
  params : ∀ d ∈ m.params, d.IsFieldType
  returnType : Descriptor.parse m.returnType.text = .ok m.returnType

/-- What lists and method descriptors are read as is determined by the text. It is a text of field
types, and it gives back every list of them. -/
theorem tokenisation_unique :
    (∀ (t : Text) (ds : List Descriptor), Descriptor.parseList t = .ok ds ↔
      (∀ d ∈ ds, d.IsFieldType) ∧ textOf ds = t) ∧
    (∀ (s : Text) (m : MethodDescriptor), parse s = .ok m ↔
      m.WellFormed ∧ s = '(' :: (textOf m.params ++ ')' :: m.returnType.text)) ∧
    (∀ ds : List Descriptor, (∀ d ∈ ds, d.IsFieldType) → Descriptor.parseList (textOf ds) = .ok ds) ∧
    ∀ m : MethodDescriptor, m.WellFormed → parse m.text = .ok m := by
  have htypes : ∀ ds : List Descriptor, (∀ d ∈ ds, d.IsToken) ↔ ∀ d ∈ ds, d.IsFieldType :=
    fun ds => forall₂_congr fun d _ => isToken_iff_parse
  have hlist : ∀ (t : Text) (ds : List Descriptor), Descriptor.parseList t = .ok ds ↔
      (∀ d ∈ ds, d.IsFieldType) ∧ textOf ds = t := fun t ds => by
    rw [parseList_eq_ok_iff, htypes, and_comm, eq_comm]
  have hmethod : ∀ (s : Text) (m : MethodDescriptor), parse s = .ok m ↔
      m.WellFormed ∧ s = '(' :: (textOf m.params ++ ')' :: m.returnType.text) := fun s m => by
    rw [parse_eq_ok_iff, htypes, and_comm, text]
    exact and_congr_left fun _ => ⟨fun h => ⟨h.1, h.2⟩, fun h => ⟨h.params, h.returnType⟩⟩
  exact ⟨hlist, hmethod, fun ds hds => (hlist _ _).2 ⟨hds, rfl⟩,
    fun m hm => (hmethod _ _).2 ⟨hm, rfl⟩⟩

/-- Tokens with brackets, semicolons and parentheses in them. -/
def nestedTypes : List Descriptor :=
  [⟨"Ljava/util/Map<TK;Lé)(<[TV;>;>;".toList⟩, ⟨"[[I".toList⟩, ⟨"T);".toList⟩, ⟨"J".toList⟩]

theorem tokenisation_nestedTypes :
    Descriptor.parseList "Ljava/util/Map<TK;Lé)(<[TV;>;>;[[IT);J".toList = .ok nestedTypes ∧
    parse "(Ljava/util/Map<TK;Lé)(<[TV;>;>;[[IT);J)V".toList = .ok ⟨nestedTypes, .void⟩ := by
  obtain ⟨hlist, hmethod, -, -⟩ := tokenisation_unique
  have htypes : ∀ d ∈ nestedTypes, d.IsFieldType := by
    simp only [Descriptor.IsFieldType]
    decide +kernel
  exact ⟨(hlist _ _).2 ⟨htypes, by decide +kernel⟩,
    (hmethod _ _).2 ⟨⟨htypes, by decide +kernel⟩, by decide +kernel⟩⟩

end ErasedBridges.MethodDescriptor
