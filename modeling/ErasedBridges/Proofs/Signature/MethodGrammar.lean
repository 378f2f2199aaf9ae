import ErasedBridges.Proofs.Signature.Grammar

/-!
# The grammar of method signatures

The parameters of a method signature stand in parentheses, behind them the return type and the
thrown types, each of these after a caret. So the return type has no caret, and like the bounds all
types but the return type are tokens.
-/

namespace ErasedBridges

open Descriptor

namespace MethodSignature

def throwsText (ts : List Descriptor) : Text := ts.flatMap fun t => '^' :: t.text

structure WellFormed (s : MethodSignature) : Prop where
  typeParams : TypeParameter.WellFormedList s.typeParams
  params : ∀ d ∈ s.params, d.IsToken
  returnType : Descriptor.parse s.returnType.text = .ok s.returnType
  caret : '^' ∉ s.returnType.text
  throws : ∀ d ∈ s.throws, d.IsToken

theorem parseThrows?_eq_some_iff {s : Text} {ts : List Descriptor} :
    parseThrows? s = some ts ↔ s = throwsText ts ∧ ∀ t ∈ ts, t.IsToken := by
  constructor
  · intro h
    fun_induction parseThrows? s generalizing ts with
    | case1 =>
      cases h
      exact ⟨rfl, List.forall_mem_nil _⟩
    | case2 => cases h
    | case3 s token rest hscan ih =>
      obtain ⟨ts', hts, rfl⟩ := Option.map_eq_some_iff.1 h
      obtain ⟨hrest, htokens⟩ := ih hts
      refine ⟨?_, List.forall_mem_cons.2 ⟨isToken_of_scan hscan, htokens⟩⟩
      rw [← (Descriptor.scan_append hscan).1, hrest]
      rfl
    | case4 => cases h
  · rintro ⟨rfl, htokens⟩
    induction ts with
    | nil => rw [throwsText, List.flatMap_nil, parseThrows?]
    | cons t ts ih =>
      obtain ⟨ht, hts⟩ := List.forall_mem_cons.1 htokens
      have htext : throwsText (t :: ts) = '^' :: (t.text ++ throwsText ts) := rfl
      rw [htext, parseThrows?]
      split
      · next hnone =>
        rw [ht.scan_append] at hnone
        cases hnone
      · next token rest hscan =>
        rw [ht.scan_append] at hscan
        cases hscan
        rw [ih hts]
        rfl

/-- The thrown types begin with the first caret behind the parameters. -/
theorem span_caret {returnText : Text} (hcaret : '^' ∉ returnText) (ts : List Descriptor) :
    (returnText ++ throwsText ts).takeWhile (· != '^') = returnText ∧
      (returnText ++ throwsText ts).dropWhile (· != '^') = throwsText ts := by
  have hreturn : ∀ c ∈ returnText, (c != '^') = true := fun c hc =>
    bne_iff_ne.2 fun he => hcaret (he ▸ hc)
  rw [List.takeWhile_append_of_pos hreturn, List.dropWhile_append_of_pos hreturn]
  cases ts with
  | nil => exact ⟨List.append_nil _, rfl⟩
  | cons t ts => exact ⟨List.append_nil _, rfl⟩

theorem exists_parts_of_parse {text : Text} {s : MethodSignature} (h : parse text = .ok s) :
    ∃ rest inner tail, TypeParameter.parseList? text = some (s.typeParams, rest) ∧
      rest = '(' :: inner ∧ paramTokens? inner = some (s.params, tail) ∧
      Descriptor.parse (tail.takeWhile (· != '^')) = .ok s.returnType ∧
      parseThrows? (tail.dropWhile (· != '^')) = some s.throws := by
  rw [parse] at h
  split at h
  · next s' hparse =>
    cases h
    simp only [parse?, Option.bind_eq_bind, Option.bind_eq_some_iff] at hparse
    obtain ⟨⟨typeParams, rest⟩, htypeParams, inner, hinner, ⟨params, tail⟩, hparams, returnType,
      hreturn, throws, hthrows, he⟩ := hparse
    cases he
    refine ⟨rest, inner, tail, htypeParams, Text.isPrefixOf?_eq_some.1 hinner, hparams, ?_, hthrows⟩
    cases hparsed : Descriptor.parse (tail.takeWhile (· != '^')) with
    | error e =>
      rw [hparsed] at hreturn
      cases hreturn
    | ok d =>
      rw [hparsed] at hreturn
      cases hreturn
      rfl
  · cases h

theorem parse_eq_ok_iff {text : Text} {s : MethodSignature} :
    parse text = .ok s ↔ text = s.text ∧ s.WellFormed := by
  constructor
  · intro h
    obtain ⟨rest, inner, tail, htypeParams, rfl, hparams, hreturn, hthrows⟩ :=
      exists_parts_of_parse h
    obtain ⟨rfl, hlist, -⟩ := TypeParameter.parseList?_eq_some_iff.1 htypeParams
    obtain ⟨rfl, htokens⟩ := paramTokens?_eq_some_iff.1 hparams
    obtain ⟨hthrowsText, hthrown⟩ := parseThrows?_eq_some_iff.1 hthrows
    have hreturnText := text_of_parse hreturn
    have htail : tail = s.returnType.text ++ throwsText s.throws := by
      rw [hreturnText, ← hthrowsText, List.takeWhile_append_dropWhile]
    refine ⟨by rw [htail]; rfl, hlist, htokens, by rw [hreturnText]; exact hreturn, ?_, hthrown⟩
    rw [hreturnText]
    intro hcaret
    exact absurd (List.mem_takeWhile_imp hcaret) (by decide)
  · rintro ⟨rfl, hs⟩
    have htypeParams : TypeParameter.parseList? s.text = some (s.typeParams,
        '(' :: (textOf s.params ++ ')' :: (s.returnType.text ++ throwsText s.throws))) :=
      TypeParameter.parseList?_eq_some_iff.2 ⟨rfl, hs.typeParams, fun _ => nofun⟩
    have hparams : paramTokens? (textOf s.params ++ ')' :: (s.returnType.text ++
        throwsText s.throws)) = some (s.params, s.returnType.text ++ throwsText s.throws) :=
      paramTokens?_eq_some_iff.2 ⟨rfl, hs.params⟩
    have hthrows : parseThrows? (throwsText s.throws) = some s.throws :=
      parseThrows?_eq_some_iff.2 ⟨rfl, hs.throws⟩
    obtain ⟨hreturnText, hthrowsText⟩ := span_caret hs.caret s.throws
    have hparse : parse? s.text = some s := by
      simp only [parse?, Option.bind_eq_bind, Option.bind_eq_some_iff]
      refine ⟨_, htypeParams, _, rfl, _, hparams, s.returnType, ?_, s.throws, ?_, rfl⟩
      · dsimp only
        rw [hreturnText, hs.returnType]
        rfl
      · dsimp only
        rw [hthrowsText, hthrows]
    rw [parse, hparse]

end MethodSignature

/-- Both kinds of signatures are read from a text exactly if they print as this text and are
well-formed, where a token is what is read as a descriptor and is not `V`. -/
theorem parse_signature_iff_wellFormed :
    (∀ (text : Text) (s : MethodSignature),
      MethodSignature.parse text = .ok s ↔ text = s.text ∧ s.WellFormed) ∧
    (∀ (text : Text) (s : ClassSignature),
      ClassSignature.parse text = .ok s ↔ text = s.text ∧ s.WellFormed) ∧
    ∀ d : Descriptor, d.IsToken ↔ Descriptor.parse d.text = .ok d ∧ d ≠ .void :=
  ⟨fun _ _ => MethodSignature.parse_eq_ok_iff, fun _ _ => ClassSignature.parse_eq_ok_iff,
    fun _ => isToken_iff_parse⟩

end ErasedBridges
