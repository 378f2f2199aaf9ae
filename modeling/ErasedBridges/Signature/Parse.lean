import ErasedBridges.Signature.Basic
import ErasedBridges.Descriptor.Scan

/-!
# Reading generic signatures

A failure shows the whole text, wherever it stands.
-/

namespace ErasedBridges

namespace TypeParameter

/-- The interface bounds at the start of a text, each after a colon. -/
def parseBounds? (s : Text) : Option (List Descriptor × Text) :=
  match s with
  | ':' :: s =>
    match _h : Descriptor.scan s with
    | none => none
    | some (token, rest) => (parseBounds? rest).map fun (bs, after) => (⟨token⟩ :: bs, after)
  | s => some ([], s)
termination_by s.length
decreasing_by have := Descriptor.length_rest_lt _h; simp; omega

/-- The class bound at the start of a text. A colon or a closing bracket there means none. -/
def parseClassBound? : Text → Option (Option Descriptor × Text)
  | ':' :: s => some (none, ':' :: s)
  | '>' :: s => some (none, '>' :: s)
  | s => (Descriptor.scan s).map fun (token, rest) => (some ⟨token⟩, rest)

def isReserved (c : Char) : Bool := c == '<' || c == '>' || c == ';' || c == '/'

def parse? (s : Text) : Option (TypeParameter × Text) :=
  match Text.cut? [':'] s with
  | none => none
  | some (name, rest) =>
    if name.isEmpty || name.any isReserved then none
    else match parseClassBound? rest with
      | none => none
      | some (classBound, rest) =>
        (parseBounds? rest).map fun (bounds, after) => (⟨name, classBound, bounds⟩, after)

theorem length_parseBounds?_le {s after : Text} {bs : List Descriptor}
    (h : parseBounds? s = some (bs, after)) : after.length ≤ s.length := by
  fun_induction parseBounds? s generalizing bs after with
  | case1 => simp at h
  | case2 s token rest hs ih =>
    obtain ⟨⟨b, r⟩, hr, he⟩ := Option.map_eq_some_iff.1 h
    obtain ⟨rfl, rfl⟩ := Prod.mk.inj he
    have := Descriptor.length_rest_lt hs
    have := ih hr
    simp only [List.length_cons]
    omega
  | case3 => simp_all

theorem length_parseClassBound?_le {s after : Text} {b : Option Descriptor}
    (h : parseClassBound? s = some (b, after)) : after.length ≤ s.length := by
  unfold parseClassBound? at h
  split at h
  · simp_all
  · simp_all
  · obtain ⟨⟨t, r⟩, hr, he⟩ := Option.map_eq_some_iff.1 h
    obtain ⟨rfl, rfl⟩ := Prod.mk.inj he
    exact Nat.le_of_lt (Descriptor.length_rest_lt hr)

theorem length_parse?_lt {s after : Text} {p : TypeParameter}
    (h : parse? s = some (p, after)) : after.length < s.length := by
  unfold parse? at h
  split at h
  · simp at h
  · next name rest hc =>
    split at h
    · simp at h
    · split at h
      · simp at h
      · next b rest' hb =>
        obtain ⟨⟨bs, r⟩, hr, he⟩ := Option.map_eq_some_iff.1 h
        obtain ⟨rfl, rfl⟩ := Prod.mk.inj he
        have := length_parseBounds?_le hr
        have := length_parseClassBound?_le hb
        rw [← Text.cut?_append hc]
        simp
        omega

def parseAll? (s : Text) : Option (List TypeParameter × Text) :=
  match s with
  | '>' :: after => some ([], after)
  | s =>
    match _h : parse? s with
    | none => none
    | some (p, rest) => (parseAll? rest).map fun (ps, after) => (p :: ps, after)
termination_by s.length
decreasing_by exact length_parse?_lt _h

/-- An optional bracketed list, which is never empty, and what follows it. -/
def parseList? : Text → Option (List TypeParameter × Text)
  | '<' :: s => (parseAll? s).filter fun (ps, _) => !ps.isEmpty
  | s => some ([], s)

end TypeParameter

namespace MethodSignature

def parseThrows? (s : Text) : Option (List Descriptor) :=
  match s with
  | [] => some []
  | '^' :: s =>
    match _h : Descriptor.scan s with
    | none => none
    | some (token, rest) => (parseThrows? rest).map (⟨token⟩ :: ·)
  | _ => none
termination_by s.length
decreasing_by have := Descriptor.length_rest_lt _h; simp; omega

def parse? (s : Text) : Option MethodSignature := do
  let (typeParams, rest) ← TypeParameter.parseList? s
  let inner ← ['('].isPrefixOf? rest
  let (params, tail) ← Descriptor.paramTokens? inner
  let returnType ← (Descriptor.parse (tail.takeWhile (· != '^'))).toOption
  let throws ← parseThrows? (tail.dropWhile (· != '^'))
  return ⟨typeParams, params, returnType, throws⟩

def parse (s : Text) : Except ReadError MethodSignature :=
  match parse? s with
  | some m => .ok m
  | none => .error (.signature s)

end MethodSignature

namespace ClassSignature

def parse? (s : Text) : Option ClassSignature := do
  let (typeParams, rest) ← TypeParameter.parseList? s
  let supertypes ← Descriptor.tokens? rest
  if supertypes.isEmpty then none else return ⟨typeParams, supertypes⟩

def parse (s : Text) : Except ReadError ClassSignature :=
  match parse? s with
  | some c => .ok c
  | none => .error (.signature s)

end ClassSignature
end ErasedBridges
