import ErasedBridges.Descriptor.Basic
import ErasedBridges.ReadError

/-!
# Splitting text into descriptors

A class or variable token ends at the first semicolon outside its type argument brackets, so
`Ljava/util/Map<TK;TV;>;` is one token. `scan_append` says that a scan splits its text and
`scan_append_of_eq` that what follows a token does not change where it ends.
-/

namespace ErasedBridges
namespace Descriptor

/-- Splits after the semicolon that closes a name inside `depth` open brackets. -/
def scanName : Nat → Text → Option (Text × Text)
  | _, [] => none
  | 0, ';' :: s => some ([';'], s)
  | 0, '>' :: _ => none
  | depth + 1, '>' :: s => (scanName depth s).map fun (name, rest) => ('>' :: name, rest)
  | depth, '<' :: s => (scanName (depth + 1) s).map fun (name, rest) => ('<' :: name, rest)
  | depth, c :: s => (scanName depth s).map fun (name, rest) => (c :: name, rest)

def scan : Text → Option (Text × Text)
  | [] => none
  | '[' :: s => (scan s).map fun (token, rest) => ('[' :: token, rest)
  | c :: s =>
    if (BaseType.ofCode? c).isSome then some ([c], s)
    else if c = 'L' ∨ c = 'T' then (scanName 0 s).map fun (name, rest) => (c :: name, rest)
    else none

theorem scanName_append {depth : Nat} {s name rest : Text}
    (h : scanName depth s = some (name, rest)) : name ++ rest = s ∧ name ≠ [] := by
  fun_induction scanName depth s generalizing name rest with
  | case1 => simp at h
  | case2 => simp at h; simp [← h.1, h.2]
  | case3 => simp at h
  | case4 depth s ih | case5 depth s ih | case6 depth c s _ _ _ _ ih =>
    obtain ⟨⟨n, r⟩, hs, he⟩ := Option.map_eq_some_iff.1 h
    obtain ⟨rfl, rfl⟩ := Prod.mk.inj he
    simp [(ih hs).1]

theorem scan_append {s token rest : Text} (h : scan s = some (token, rest)) :
    token ++ rest = s ∧ token ≠ [] := by
  fun_induction scan s generalizing token rest with
  | case1 => simp at h
  | case2 s ih =>
    obtain ⟨⟨t, r⟩, hs, he⟩ := Option.map_eq_some_iff.1 h
    obtain ⟨rfl, rfl⟩ := Prod.mk.inj he
    simp [(ih hs).1]
  | case3 => simp at h; simp [← h.1, h.2]
  | case4 c s _ _ _ =>
    obtain ⟨⟨n, r⟩, hs, he⟩ := Option.map_eq_some_iff.1 h
    obtain ⟨rfl, rfl⟩ := Prod.mk.inj he
    simp [(scanName_append hs).1]
  | case5 => simp at h

theorem scanName_append_of_eq {depth : Nat} {s name rest : Text} (more : Text)
    (h : scanName depth s = some (name, rest)) :
    scanName depth (s ++ more) = some (name, rest ++ more) := by
  fun_induction scanName depth s generalizing name rest with
  | case1 => simp at h
  | case2 => simp_all [scanName]
  | case3 => simp at h
  | case4 depth s ih | case5 depth s ih | case6 depth c s _ _ _ _ ih =>
    obtain ⟨⟨n, r⟩, hs, he⟩ := Option.map_eq_some_iff.1 h
    obtain ⟨rfl, rfl⟩ := Prod.mk.inj he
    simp_all [scanName]

theorem scan_append_of_eq {s token rest : Text} (more : Text)
    (h : scan s = some (token, rest)) : scan (s ++ more) = some (token, rest ++ more) := by
  fun_induction scan s generalizing token rest with
  | case1 | case5 => cases h
  | case2 s ih =>
    obtain ⟨⟨t, r⟩, hs, he⟩ := Option.map_eq_some_iff.1 h
    cases he
    rw [List.cons_append, scan, ih hs]
    rfl
  | case3 c s hne hbase =>
    cases h
    rw [List.cons_append, scan, if_pos hbase]
    exact hne
  | case4 c s hne hbase hclass =>
    obtain ⟨⟨n, r⟩, hs, he⟩ := Option.map_eq_some_iff.1 h
    cases he
    rw [List.cons_append, scan, if_neg hbase, if_pos hclass, scanName_append_of_eq more hs]
    · rfl
    · exact hne

theorem length_scan {s token rest : Text} (h : scan s = some (token, rest)) :
    token.length + rest.length = s.length := by
  rw [← (scan_append h).1, List.length_append]

theorem length_rest_lt {s token rest : Text} (h : scan s = some (token, rest)) :
    rest.length < s.length := by
  have := length_scan h
  have := List.length_pos_iff.2 (scan_append h).2
  omega

/-- Reads exactly one descriptor. The return type `V` is one too. -/
def parse (s : Text) : Except ReadError Descriptor :=
  if s = ['V'] then .ok void
  else match scan s with
    | some (token, []) => .ok ⟨token⟩
    | _ => .error (.descriptor s)

def tokens? (s : Text) : Option (List Descriptor) :=
  if s.isEmpty then some []
  else match _h : scan s with
    | none => none
    | some (token, rest) => (tokens? rest).map (⟨token⟩ :: ·)
termination_by s.length
decreasing_by exact length_rest_lt _h

/-- The tokens up to a closing parenthesis where a token would start, and what follows it. -/
def paramTokens? (s : Text) : Option (List Descriptor × Text) :=
  match s with
  | ')' :: rest => some ([], rest)
  | s =>
    match _h : scan s with
    | none => none
    | some (token, rest) => (paramTokens? rest).map fun (ds, after) => (⟨token⟩ :: ds, after)
termination_by s.length
decreasing_by exact length_rest_lt _h

def parseList (s : Text) : Except ReadError (List Descriptor) :=
  match tokens? s with
  | some ds => .ok ds
  | none => .error (.descriptor s)

end Descriptor

/-- Reads `(`, parameters, `)` and a return type. A failure shows the whole text. -/
def MethodDescriptor.parse (s : Text) : Except ReadError MethodDescriptor :=
  match s with
  | '(' :: inner =>
    match Descriptor.paramTokens? inner with
    | some (params, rest) =>
      match Descriptor.parse rest with
      | .ok returnType => .ok ⟨params, returnType⟩
      | .error _ => .error (.descriptor s)
    | none => .error (.descriptor s)
  | _ => .error (.descriptor s)

end ErasedBridges
