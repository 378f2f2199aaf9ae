import ErasedBridges.Proofs.Descriptor.Token
import ErasedBridges.Signature.Parse

/-!
# The grammar of generic signatures

A signature is read from a text exactly if it is well-formed and the text is its own. Each part is
read from its text whatever follows it, as long as that cannot belong to the part.
-/

namespace ErasedBridges

open Descriptor

namespace TypeParameter

/-- The name ends at the first colon, and the bounds are tokens. -/
structure WellFormed (p : TypeParameter) : Prop where
  name_ne_nil : p.name ≠ []
  name : ∀ c ∈ p.name, c ≠ ':' ∧ isReserved c = false
  classBound : ∀ b ∈ p.classBound, b.IsToken
  interfaceBounds : ∀ b ∈ p.interfaceBounds, b.IsToken

/-- There is a bound, so what follows the colon cannot be read as one. -/
def Bounded (p : TypeParameter) : Prop := p.classBound.isSome = true ∨ p.interfaceBounds ≠ []

/-- Only the last parameter may have no bounds. -/
structure WellFormedList (ps : List TypeParameter) : Prop where
  wellFormed : ∀ p ∈ ps, p.WellFormed
  bounded : ∀ p ∈ ps.dropLast, p.Bounded

def boundsText (bs : List Descriptor) : Text := bs.flatMap fun b => ':' :: b.text

/-! ### Bounds -/

theorem parseBounds?_eq_some_iff {s after : Text} {bs : List Descriptor} :
    parseBounds? s = some (bs, after) ↔
      s = boundsText bs ++ after ∧ (∀ b ∈ bs, b.IsToken) ∧ after.head? ≠ some ':' := by
  constructor
  · intro h
    fun_induction parseBounds? s generalizing bs after with
    | case1 => cases h
    | case2 s token rest hscan ih =>
      obtain ⟨⟨bs', after'⟩, hbs, he⟩ := Option.map_eq_some_iff.1 h
      cases he
      obtain ⟨hrest, htokens, hafter⟩ := ih hbs
      refine ⟨?_, List.forall_mem_cons.2 ⟨isToken_of_scan hscan, htokens⟩, hafter⟩
      rw [← (Descriptor.scan_append hscan).1, hrest]
      simp [boundsText]
    | case3 s hcolon =>
      cases h
      refine ⟨rfl, List.forall_mem_nil _, fun hhead => ?_⟩
      obtain ⟨t, rfl⟩ := List.head?_eq_some_iff.1 hhead
      exact hcolon t rfl
  · rintro ⟨rfl, htokens, hafter⟩
    induction bs with
    | nil =>
      rw [parseBounds?.eq_def]
      split
      · next t ht =>
        rw [show boundsText [] ++ after = after from rfl] at ht
        rw [ht] at hafter
        exact absurd rfl hafter
      · rfl
    | cons b bs ih =>
      obtain ⟨hb, hbs⟩ := List.forall_mem_cons.1 htokens
      have htext : boundsText (b :: bs) ++ after = ':' :: (b.text ++ (boundsText bs ++ after)) := by
        simp [boundsText]
      rw [htext, parseBounds?]
      split
      · next hnone =>
        rw [hb.scan_append] at hnone
        cases hnone
      · next token rest hscan =>
        rw [hb.scan_append] at hscan
        cases hscan
        rw [ih hbs]
        rfl

theorem parseClassBound?_eq_some_iff {s after : Text} {b? : Option Descriptor} :
    parseClassBound? s = some (b?, after) ↔
      s = (b?.map Descriptor.text).getD [] ++ after ∧ (∀ b ∈ b?, b.IsToken) ∧
        (b? = none → after.head? = some ':' ∨ after.head? = some '>') := by
  constructor
  · intro h
    rw [parseClassBound?.eq_def] at h
    split at h
    · cases h
      exact ⟨rfl, nofun, fun _ => Or.inl rfl⟩
    · cases h
      exact ⟨rfl, nofun, fun _ => Or.inr rfl⟩
    · obtain ⟨⟨token, rest⟩, hscan, he⟩ := Option.map_eq_some_iff.1 h
      cases he
      refine ⟨(Descriptor.scan_append hscan).1.symm, ?_, nofun⟩
      rintro _ ⟨⟩
      exact isToken_of_scan hscan
  · rintro ⟨rfl, htoken, hnone⟩
    cases b? with
    | none =>
      rcases hnone rfl with hhead | hhead
      · obtain ⟨t, rfl⟩ := List.head?_eq_some_iff.1 hhead
        rfl
      · obtain ⟨t, rfl⟩ := List.head?_eq_some_iff.1 hhead
        rfl
    | some b =>
      have hb := htoken b rfl
      rw [Option.map_some, Option.getD_some, parseClassBound?.eq_def]
      split
      · next t ht => exact absurd (by rw [ht]; rfl) (hb.head_append_ne (c := ':') rfl after)
      · next t ht => exact absurd (by rw [ht]; rfl) (hb.head_append_ne (c := '>') rfl after)
      · rw [hb.scan_append]
        rfl

/-! ### Parameters -/

theorem WellFormed.head?_text {p : TypeParameter} (h : p.WellFormed) (more : Text) {c : Char}
    (hc : (p.text ++ more).head? = some c) : c ≠ ':' ∧ isReserved c = false := by
  rw [text, List.append_assoc, List.head?_append_of_ne_nil _ h.name_ne_nil] at hc
  exact h.name c (List.mem_of_head? hc)

theorem not_refused_iff {name : Text} :
    ¬ (name.isEmpty || name.any isReserved) = true ↔
      name ≠ [] ∧ ∀ c ∈ name, isReserved c = false := by
  simp only [Bool.or_eq_true, List.isEmpty_iff, List.any_eq_true, not_or, not_exists, not_and,
    Bool.not_eq_true, ne_eq]

theorem parse?_eq_some_iff {s after : Text} {p : TypeParameter} :
    parse? s = some (p, after) ↔
      s = p.text ++ after ∧ p.WellFormed ∧ after.head? ≠ some ':' ∧
        (p.Bounded ∨ after.head? = some '>') := by
  constructor
  · intro h
    rw [parse?] at h
    split at h
    · cases h
    · next name rest hcut =>
      split at h
      · cases h
      · next hname =>
        split at h
        · cases h
        · next classBound tail hclass =>
          obtain ⟨⟨bounds, after'⟩, hbounds, he⟩ := Option.map_eq_some_iff.1 h
          cases he
          obtain ⟨rfl, hclassToken, hnone⟩ := parseClassBound?_eq_some_iff.1 hclass
          obtain ⟨rfl, htokens, hafter⟩ := parseBounds?_eq_some_iff.1 hbounds
          obtain ⟨hne, hreserved⟩ := not_refused_iff.1 hname
          refine ⟨?_, ⟨hne, fun c hc => ⟨?_, hreserved c hc⟩, hclassToken, htokens⟩, hafter, ?_⟩
          · rw [← Text.cut?_append hcut]
            simp [text, boundsText]
          · rintro rfl
            exact Text.notMem_of_cut?_char hcut hc
          · cases classBound with
            | some b => exact Or.inl (Or.inl rfl)
            | none =>
              cases bounds with
              | cons b bs => exact Or.inl (Or.inr (List.cons_ne_nil _ _))
              | nil => exact Or.inr ((hnone rfl).resolve_left hafter)
  · rintro ⟨rfl, hp, hafter, hbounded⟩
    obtain ⟨name, classBound, bounds⟩ := p
    have hcolon : ':' ∉ name := fun hc => (hp.name ':' hc).1 rfl
    have hname : ¬ (name.isEmpty || name.any isReserved) = true :=
      not_refused_iff.2 ⟨hp.name_ne_nil, fun c hc => (hp.name c hc).2⟩
    have htext : text ⟨name, classBound, bounds⟩ ++ after =
        name ++ ':' :: ((classBound.map Descriptor.text).getD [] ++
          (boundsText bounds ++ after)) := by
      simp [text, boundsText]
    have hclass : parseClassBound? ((classBound.map Descriptor.text).getD [] ++
        (boundsText bounds ++ after)) = some (classBound, boundsText bounds ++ after) := by
      refine parseClassBound?_eq_some_iff.2 ⟨rfl, hp.classBound, ?_⟩
      rintro rfl
      cases bounds with
      | cons b bs => exact Or.inl rfl
      | nil => exact Or.inr (hbounded.resolve_left (by simp [Bounded]))
    have hbounds : parseBounds? (boundsText bounds ++ after) = some (bounds, after) :=
      parseBounds?_eq_some_iff.2 ⟨rfl, hp.interfaceBounds, hafter⟩
    rw [htext, parse?, Text.cut?_char hcolon]
    dsimp only
    rw [if_neg hname, hclass]
    dsimp only
    rw [hbounds]
    rfl

/-! ### Lists -/

theorem wellFormedList_nil : WellFormedList [] :=
  ⟨List.forall_mem_nil _, List.forall_mem_nil _⟩

/-- What follows a parameter in a list: the closing bracket or a name. -/
theorem WellFormedList.head?_text {ps : List TypeParameter} (h : WellFormedList ps) (after : Text)
    {c : Char} (hc : (ps.flatMap text ++ '>' :: after).head? = some c) :
    c ≠ ':' ∧ (c = '>' ↔ ps = []) := by
  cases ps with
  | nil =>
    cases hc
    exact ⟨by decide, fun _ => rfl, fun _ => rfl⟩
  | cons p ps =>
    rw [List.flatMap_cons, List.append_assoc] at hc
    obtain ⟨hcolon, hreserved⟩ := (h.wellFormed p List.mem_cons_self).head?_text _ hc
    refine ⟨hcolon, ?_, nofun⟩
    rintro rfl
    cases hreserved

theorem wellFormedList_cons {p : TypeParameter} {ps : List TypeParameter} :
    WellFormedList (p :: ps) ↔ p.WellFormed ∧ (ps = [] ∨ p.Bounded) ∧ WellFormedList ps := by
  cases ps with
  | nil =>
    constructor
    · intro h
      exact ⟨h.wellFormed p List.mem_cons_self, Or.inl rfl, wellFormedList_nil⟩
    · rintro ⟨hp, -, -⟩
      exact ⟨List.forall_mem_singleton.2 hp, List.forall_mem_nil _⟩
  | cons q qs =>
    constructor
    · intro h
      obtain ⟨hp, hps⟩ := List.forall_mem_cons.1 h.wellFormed
      have hbounded := h.bounded
      rw [List.dropLast_cons_cons] at hbounded
      obtain ⟨hpBounded, hqs⟩ := List.forall_mem_cons.1 hbounded
      exact ⟨hp, Or.inr hpBounded, hps, hqs⟩
    · rintro ⟨hp, hpBounded, hqs⟩
      refine ⟨List.forall_mem_cons.2 ⟨hp, hqs.wellFormed⟩, ?_⟩
      rw [List.dropLast_cons_cons]
      exact List.forall_mem_cons.2 ⟨hpBounded.resolve_left (List.cons_ne_nil _ _), hqs.bounded⟩

theorem parseAll?_eq_some_iff {s after : Text} {ps : List TypeParameter} :
    parseAll? s = some (ps, after) ↔
      s = ps.flatMap text ++ '>' :: after ∧ WellFormedList ps := by
  constructor
  · intro h
    fun_induction parseAll? s generalizing ps after with
    | case1 after' =>
      cases h
      exact ⟨rfl, wellFormedList_nil⟩
    | case2 => cases h
    | case3 s _ p rest hp ih =>
      obtain ⟨⟨ps', after'⟩, hps, he⟩ := Option.map_eq_some_iff.1 h
      cases he
      obtain ⟨rfl, hlist⟩ := ih hps
      obtain ⟨rfl, hwellFormed, -, hbounded⟩ := parse?_eq_some_iff.1 hp
      refine ⟨by simp, wellFormedList_cons.2 ⟨hwellFormed, ?_, hlist⟩⟩
      rcases hbounded with hbounded | hclose
      · exact Or.inr hbounded
      · exact Or.inl ((hlist.head?_text _ hclose).2.1 rfl)
  · rintro ⟨rfl, hlist⟩
    induction ps with
    | nil =>
      rw [List.flatMap_nil, List.nil_append, parseAll?]
    | cons p ps ih =>
      obtain ⟨hp, hbounded, hps⟩ := wellFormedList_cons.1 hlist
      have hparse : parse? (p.text ++ (ps.flatMap text ++ '>' :: after)) =
          some (p, ps.flatMap text ++ '>' :: after) := by
        refine parse?_eq_some_iff.2 ⟨rfl, hp, fun hcolon => (hps.head?_text _ hcolon).1 rfl, ?_⟩
        rcases hbounded with rfl | hbounded
        · exact Or.inr rfl
        · exact Or.inl hbounded
      rw [List.flatMap_cons, List.append_assoc, parseAll?.eq_def]
      split
      · next t ht =>
        have hhead := hp.head?_text (ps.flatMap text ++ '>' :: after) (by rw [ht]; rfl)
        exact absurd hhead.2 (by decide)
      · split
        · next hnone =>
          rw [hparse] at hnone
          cases hnone
        · next q rest hq =>
          rw [hparse] at hq
          cases hq
          rw [ih hps]
          rfl

theorem parseList?_eq_some_iff {s rest : Text} {ps : List TypeParameter} :
    parseList? s = some (ps, rest) ↔
      s = typeParametersText ps ++ rest ∧ WellFormedList ps ∧
        (ps = [] → rest.head? ≠ some '<') := by
  constructor
  · intro h
    rw [parseList?.eq_def] at h
    split at h
    · obtain ⟨hall, hne⟩ := Option.filter_eq_some_iff.1 h
      obtain ⟨rfl, hlist⟩ := parseAll?_eq_some_iff.1 hall
      have hps : ps.isEmpty = false := by simpa using hne
      refine ⟨?_, hlist, fun hnil => ?_⟩
      · simp [typeParametersText, hps]
      · rw [hnil] at hps
        cases hps
    · next hopen =>
      cases h
      refine ⟨rfl, wellFormedList_nil, fun _ hhead => ?_⟩
      obtain ⟨t, rfl⟩ := List.head?_eq_some_iff.1 hhead
      exact hopen t rfl
  · rintro ⟨rfl, hlist, hrest⟩
    cases ps with
    | nil =>
      rw [parseList?.eq_def]
      split
      · next t ht =>
        rw [show typeParametersText [] ++ rest = rest from rfl] at ht
        rw [ht] at hrest
        exact absurd rfl (hrest rfl)
      · rfl
    | cons p ps =>
      have htext : typeParametersText (p :: ps) ++ rest =
          '<' :: ((p :: ps).flatMap text ++ '>' :: rest) := by
        simp [typeParametersText]
      rw [htext, parseList?, parseAll?_eq_some_iff.2 ⟨rfl, hlist⟩]
      rfl

end TypeParameter

namespace ClassSignature

structure WellFormed (s : ClassSignature) : Prop where
  typeParams : TypeParameter.WellFormedList s.typeParams
  supertypes : ∀ d ∈ s.supertypes, d.IsToken
  supertypes_ne_nil : s.supertypes ≠ []

/-- The type parameters of a well-formed signature are read back from its text. -/
theorem WellFormed.parseList?_text {s : ClassSignature} (h : s.WellFormed) :
    TypeParameter.parseList? s.text = some (s.typeParams, textOf s.supertypes) := by
  refine TypeParameter.parseList?_eq_some_iff.2 ⟨rfl, h.typeParams, fun _ => ?_⟩
  obtain ⟨d, ds, hds⟩ := List.exists_cons_of_ne_nil h.supertypes_ne_nil
  have htokens := h.supertypes
  rw [hds] at htokens ⊢
  rw [textOf_cons]
  exact (htokens d List.mem_cons_self).head_append_ne rfl _

theorem parse_eq_ok_iff {text : Text} {s : ClassSignature} :
    parse text = .ok s ↔ text = s.text ∧ s.WellFormed := by
  constructor
  · intro h
    rw [parse] at h
    split at h
    · next s' hparse =>
      cases h
      simp only [parse?, Option.bind_eq_bind, Option.bind_eq_some_iff] at hparse
      obtain ⟨⟨typeParams, rest⟩, htps, supertypes, hsupertypes, he⟩ := hparse
      split at he
      · cases he
      · next hne =>
        cases he
        obtain ⟨rfl, htypeParams, -⟩ := TypeParameter.parseList?_eq_some_iff.1 htps
        obtain ⟨rfl, htokens⟩ := tokens?_eq_some_iff.1 hsupertypes
        exact ⟨rfl, htypeParams, htokens, by simpa using hne⟩
    · cases h
  · rintro ⟨rfl, hs⟩
    have hsupertypes : tokens? (textOf s.supertypes) = some s.supertypes :=
      tokens?_eq_some_iff.2 ⟨rfl, hs.supertypes⟩
    have hparse : parse? s.text = some s := by
      rw [parse?, hs.parseList?_text, Option.bind_eq_bind, Option.bind_some]
      dsimp only
      rw [hsupertypes, Option.bind_eq_bind, Option.bind_some,
        if_neg (by simpa using hs.supertypes_ne_nil)]
      rfl
    rw [parse, hparse]

end ClassSignature

end ErasedBridges
