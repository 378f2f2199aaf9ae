import ErasedBridges.Descriptor.Variables
import ErasedBridges.Proofs.Success
import ErasedBridges.Proofs.Text.Separator

/-!
# Descriptors keep their text

A descriptor prints as the text that it was parsed from. Putting text in the place of a variable
changes a descriptor that is a reference to it, and no other becomes one.
-/

namespace ErasedBridges

open Text

namespace Descriptor

@[simp] theorem textOf_nil : textOf [] = [] := rfl

@[simp] theorem textOf_cons (d : Descriptor) (ds : List Descriptor) :
    textOf (d :: ds) = d.text ++ textOf ds := List.flatMap_cons

/-- The characters that a token can begin with. -/
def opensToken (c : Char) : Bool :=
  c == '[' || c == 'L' || c == 'T' || (BaseType.ofCode? c).isSome

theorem opensToken_of_scan {s token rest : Text} (h : scan s = some (token, rest)) {c : Char}
    (hc : token.head? = some c) : opensToken c = true := by
  rw [scan.eq_def] at h
  split at h
  · cases h
  · obtain ⟨⟨token', rest'⟩, -, he⟩ := Option.map_eq_some_iff.1 h
    cases he
    cases hc
    decide
  · next d s' _ =>
    split at h
    · next hbase =>
      cases h
      cases hc
      rw [opensToken, hbase, Bool.or_true]
    · split at h
      · next hd =>
        obtain ⟨⟨name, rest'⟩, -, he⟩ := Option.map_eq_some_iff.1 h
        cases he
        cases hc
        rcases hd with rfl | rfl
        · decide
        · decide
      · cases h

def BeginsToken (d : Descriptor) : Prop := ∀ c, d.text.head? = some c → opensToken c = true

theorem beginsToken_object (name : Text) : (object name).BeginsToken := by
  rintro c ⟨⟩
  decide

theorem paramTokens?_eq_some {s rest : Text} {ds : List Descriptor}
    (h : paramTokens? s = some (ds, rest)) : s = textOf ds ++ ')' :: rest := by
  fun_induction paramTokens? s generalizing ds rest with
  | case1 rest' =>
    cases h
    rfl
  | case2 => cases h
  | case3 s _ token tail hscan ih =>
    obtain ⟨⟨ds', after⟩, hds, he⟩ := Option.map_eq_some_iff.1 h
    cases he
    rw [textOf_cons, List.append_assoc, ← ih hds, (scan_append hscan).1]

theorem tokens?_eq_some {s : Text} {ds : List Descriptor} (h : tokens? s = some ds) :
    s = textOf ds := by
  fun_induction tokens? s generalizing ds with
  | case1 s hs =>
    cases h
    exact List.isEmpty_iff.1 hs
  | case2 => cases h
  | case3 s _ token rest hscan ih =>
    obtain ⟨ds', hds, rfl⟩ := Option.map_eq_some_iff.1 h
    rw [textOf_cons, ← ih hds, (scan_append hscan).1]

theorem text_of_parse {s : Text} {d : Descriptor} (h : parse s = .ok d) : d.text = s := by
  rw [parse] at h
  split at h
  · next hs =>
    cases h
    exact hs.symm
  · split at h
    · next token hscan =>
      cases h
      simpa using (scan_append hscan).1
    · cases h

theorem isVariable_eq_true {name : Text} {d : Descriptor} :
    d.isVariable name = true ↔ d.text = 'T' :: (name ++ [';']) := by
  rw [isVariable, beq_iff_eq, variableName?]
  split
  · next s hs => rw [hs, dropEnd?_eq_some, List.cons.injEq, eq_self, true_and]
  · next hs =>
    refine ⟨nofun, fun h => ?_⟩
    exact absurd h (hs _)

theorem mapVariables_eq_ok {f : Text → Option Text} {d d' : Descriptor} :
    d.mapVariables f = .ok d' ↔ (walkToken f d.text).result = some d'.text := by
  obtain ⟨t⟩ := d'
  rw [mapVariables]
  split
  · next s hs => simp [hs]
  · next hs => simp [hs]

theorem mapVariables_variable (name : Text) {f : Text → Option Text} {text : Text}
    (h : f name = some text) :
    mapVariables f ⟨'T' :: (name ++ [';'])⟩ = .ok ⟨text⟩ := by
  rw [mapVariables_eq_ok, walkToken.eq_def]
  simp only [dropEnd?_eq_some.2 rfl, h, Option.getD_some]

/-- The text `f` gives stands for a variable that is the descriptor itself. Nothing else turns
into a variable. -/
theorem isVariable_mapVariables {f : Text → Option Text} {d d' : Descriptor}
    (h : d.mapVariables f = .ok d') {name : Text} (hname : d'.isVariable name = true) :
    ∃ other, d.isVariable other = true ∧ (f other).getD d.text = d'.text := by
  rw [mapVariables_eq_ok] at h
  rw [isVariable_eq_true] at hname
  rw [hname] at h ⊢
  rw [walkToken.eq_def] at h
  split at h
  · cases h
  · next s _ =>
    obtain ⟨t, -, ht⟩ := Option.map_eq_some_iff.1 h
    cases ht
  · next s hs =>
    split at h
    · next other hother =>
      refine ⟨other, isVariable_eq_true.2 (by rw [hs, dropEnd?_eq_some.1 hother]), ?_⟩
      rw [hs]
      exact Option.some.inj h
    · cases h
  · next s _ =>
    obtain ⟨t, -, ht⟩ := Option.map_eq_some_iff.1 h
    cases ht
  · next hvar _ => exact absurd (Option.some.inj h) (hvar _)

end Descriptor

theorem MethodDescriptor.text_of_parse {s : Text} {d : MethodDescriptor} (h : parse s = .ok d) :
    d.text = s := by
  rw [parse.eq_def] at h
  split at h
  · next inner =>
    split at h
    · next params rest hparams =>
      split at h
      · next returnType hreturn =>
        cases h
        rw [text, Descriptor.text_of_parse hreturn, Descriptor.paramTokens?_eq_some hparams]
      · cases h
    · cases h
  · cases h

end ErasedBridges
