import ErasedBridges.Text.Alphanumeric
import ErasedBridges.Text.Blank

/-!
# Regular expressions

Which texts are regular expressions that can be matched in one pass over the bytes of a text.
Such an expression does not look around itself, and has word boundaries only where words are
ASCII. Outside Unicode mode nothing may match a part of a character. A text with a brace is none:
the expressions here come from between braces.
-/

namespace ErasedBridges.Pattern

structure Modes where
  unicode : Bool
  /-- Blanks and comments are skipped. -/
  verbose : Bool

structure State where
  modes : Modes
  /-- The modes around each open group. -/
  groups : List Modes
  /-- Whether a repetition may follow. -/
  repeatable : Bool
  names : List Text

def State.start : State := ⟨⟨true, false⟩, [], false, []⟩

/-- An item that is not a group or a class in brackets. -/
inductive Item where
  | character (c : Char)
  | characters
  | position

def skipVerbose : Bool → Text → Text
  | _, [] => []
  | true, c :: s => skipVerbose (c != '\n') s
  | false, c :: s =>
    if Text.isBlank c then skipVerbose false s
    else if c = '#' then skipVerbose true s
    else c :: s

def Modes.skip (m : Modes) (s : Text) : Text := if m.verbose then skipVerbose false s else s

def isMeta (c : Char) : Bool := "\\.+*?()|[]{}^$#&-~".toList.elem c

def hexValue? (c : Char) : Option Nat :=
  if c.isDigit then some (c.toNat - 48)
  else if 'a' ≤ c ∧ c ≤ 'f' then some (c.toNat - 87)
  else if 'A' ≤ c ∧ c ≤ 'F' then some (c.toNat - 55)
  else none

def hexCharacter? (length : Nat) (s : Text) : Option (Nat × Text) := do
  if s.length < length then failure
  let values ← (s.take length).mapM hexValue?
  let n := values.foldl (fun n d => 16 * n + d) 0
  if 0x10FFFF < n ∨ (0xD800 ≤ n ∧ n ≤ 0xDFFF) then failure
  return (n, s.drop length)

def escape? (m : Modes) : Text → Option (Item × Text)
  | [] => none
  | 'x' :: s => do
    let (n, rest) ← hexCharacter? 2 s
    if !m.unicode && 0x80 ≤ n then failure
    return (.character (Char.ofNat n), rest)
  | 'u' :: s => (hexCharacter? 4 s).map fun (n, rest) => (.character (Char.ofNat n), rest)
  | 'U' :: s => (hexCharacter? 8 s).map fun (n, rest) => (.character (Char.ofNat n), rest)
  | 'p' :: c :: s | 'P' :: c :: s =>
    if m.unicode && "clmnpsz".toList.elem c.toLower then some (.characters, s) else none
  | c :: s =>
    if "dsw".toList.elem c then some (.characters, s)
    else if "DSW".toList.elem c then if m.unicode then some (.characters, s) else none
    else if "Az".toList.elem c then some (.position, s)
    else if "bB<>".toList.elem c then if m.unicode then none else some (.position, s)
    else if isMeta c || "aftnrv".toList.elem c then some (.character c, s)
    else if c.toNat < 0x80 && !c.isAlphanum then some (.character c, s)
    else none

def classItem? (m : Modes) : Text → Option (Item × Text)
  | [] => none
  | '\\' :: s => do
    match ← escape? m s with
    | (.position, _) => failure
    | (.character c, rest) =>
      if !m.unicode && 0x80 ≤ c.toNat then failure
      return (.character c, rest)
    | (.characters, rest) => return (.characters, rest)
  | c :: s => if !m.unicode && 0x80 ≤ c.toNat then none else some (.character c, s)

/-- An item, or two with a hyphen between them that are the ends of a range. -/
def classRange? (m : Modes) (s : Text) : Option Text := do
  let (first, rest) ← classItem? m s
  match m.skip rest with
  | '-' :: after =>
    match m.skip after with
    | ']' :: _ | '-' :: _ => return '-' :: after
    | after =>
      let (last, rest) ← classItem? m after
      match first, last with
      | .character a, .character b => if a ≤ b then return rest else failure
      | _, _ => failure
  | rest => return rest

def namedClasses : List String :=
  ["alnum", "alpha", "ascii", "blank", "cntrl", "digit", "graph", "lower", "print", "punct",
    "space", "upper", "word", "xdigit"]

def namedClass? : Text → Option Text
  | '[' :: ':' :: s => do
    let s := if s.head? = some '^' then s.drop 1 else s
    let (name, rest) ← Text.cut? ":]".toList s
    if namedClasses.any (·.toList == name) then return rest else failure
  | _ => none

/-- What follows the opening bracket of a class, with the characters that stand for themselves
only there. -/
def openClass? (m : Modes) (s : Text) : Option Text := do
  let s := m.skip s
  let negated := s.head? = some '^'
  if negated && !m.unicode then failure
  let s := m.skip (if negated then s.drop 1 else s)
  let afterHyphens := s.dropWhile (· == '-')
  match afterHyphens with
  | [] => failure
  | ']' :: rest => if afterHyphens.length = s.length then return rest else return afterHyphens
  | _ => return afterHyphens

/-- The rest of a class in so many brackets, and what follows it. -/
def class? (m : Modes) : Nat → Nat → Text → Option Text
  | 0, _, _ => none
  | fuel + 1, depth, s =>
    match m.skip s with
    | [] => none
    | '[' :: rest =>
      match namedClass? ('[' :: rest) with
      | some rest => class? m fuel depth rest
      | none => do class? m fuel (depth + 1) (← openClass? m rest)
    | ']' :: rest => if depth ≤ 1 then some rest else class? m fuel (depth - 1) rest
    | '&' :: '&' :: rest | '-' :: '-' :: rest | '~' :: '~' :: rest => class? m fuel depth rest
    | s => do class? m fuel depth (← classRange? m s)

def flags? : Modes → Bool → Text → Text → Option (Modes × Text)
  | _, _, _, [] => none
  | m, negated, seen, c :: s =>
    if c = ':' ∨ c = ')' then
      if seen.head? = some '-' then none else some (m, c :: s)
    else if seen.elem c then none
    else if c = '-' then flags? m true (c :: seen) s
    else if "imsUuRx".toList.elem c then
      let m := if c = 'u' then { m with unicode := !negated }
        else if c = 'x' then { m with verbose := !negated } else m
      flags? m negated (c :: seen) s
    else none

def groupName? (s : Text) : Option (Text × Text) := do
  let (name, rest) ← Text.cut? ['>'] s
  let first ← name.head?
  if first.isDigit || !(first = '_' || Text.isAlphanumeric first) then failure
  if (name.drop 1).all fun c => Text.isAlphanumeric c || "_.[]".toList.elem c then
    return (name, rest)
  else failure

def State.openGroup? (st : State) (s : Text) : Option (State × Text) :=
  let inside : State := { st with groups := st.modes :: st.groups, repeatable := false }
  let named (s : Text) : Option (State × Text) := do
    let (name, rest) ← groupName? s
    if st.names.elem name then failure
    return ({ inside with names := name :: st.names }, rest)
  match st.modes.skip s with
  | '?' :: '!' :: _ | '?' :: '<' :: '!' :: _ | '?' :: '<' :: '=' :: _ | '?' :: '=' :: _ => none
  | '?' :: 'P' :: '<' :: s | '?' :: '<' :: s => named s
  | '?' :: ')' :: _ => none
  | '?' :: s => do
    match ← flags? st.modes false [] s with
    | (m, ')' :: rest) => return ({ st with modes := m, repeatable := false }, rest)
    | (m, rest) => return ({ inside with modes := m }, rest.drop 1)
  | s => some (inside, s)

def State.step? (st : State) : Text → Option (State × Text)
  | [] => none
  | '(' :: s => st.openGroup? s
  | ')' :: s =>
    match st.groups with
    | [] => none
    | m :: groups => some ({ st with modes := m, groups, repeatable := true }, s)
  | '|' :: s => some ({ st with repeatable := false }, s)
  | '[' :: s => do
    let rest ← class? st.modes (s.length + 1) 1 (← openClass? st.modes s)
    return ({ st with repeatable := true }, rest)
  | '\\' :: s => (escape? st.modes s).map fun (_, rest) => ({ st with repeatable := true }, rest)
  | '\x7b' :: _ => none
  | '.' :: s => if st.modes.unicode then some ({ st with repeatable := true }, s) else none
  | c :: s =>
    if "?*+".toList.elem c then
      if !st.repeatable then none
      else some (st, if s.head? = some '?' then s.drop 1 else s)
    else some ({ st with repeatable := true }, s)

def isValidFrom : Nat → State → Text → Bool
  | 0, _, _ => false
  | fuel + 1, st, s =>
    match st.modes.skip s with
    | [] => st.groups.isEmpty
    | s =>
      match st.step? s with
      | some (st, rest) => isValidFrom fuel st rest
      | none => false

def isValid (s : Text) : Bool := isValidFrom (s.length + 1) .start s

end ErasedBridges.Pattern
