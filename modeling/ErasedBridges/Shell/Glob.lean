import ErasedBridges.Host.FileTree

/-!
# Patterns for names

In a pattern a question mark stands for any character, an asterisk for any text, and brackets for
one of the characters in them. Quotes and backslashes take these meanings away, so the characters
of a pattern know whether they stand in quotes.
-/

namespace ErasedBridges.Shell

/-- Characters, and whether each stands in quotes. -/
abbrev Marked := List (Char × Bool)

namespace Marked

def ofText (quoted : Bool) (s : Text) : Marked := s.map (·, quoted)

def text (m : Marked) : Text := m.map (·.1)

end Marked

def characterClasses : List (String × (Char → Bool)) :=
  let isControl (c : Char) : Bool := c.toNat < 32 || c.toNat == 127
  let isGraphic (c : Char) : Bool := 32 < c.toNat && c.toNat < 127
  let isHex (c : Char) : Bool := c.isDigit || ('a' ≤ c.toLower && c.toLower ≤ 'f')
  [("alnum", Char.isAlphanum), ("alpha", Char.isAlpha), ("blank", fun c => c == ' ' || c == '\t'),
    ("cntrl", isControl), ("digit", Char.isDigit), ("graph", isGraphic), ("lower", Char.isLower),
    ("print", fun c => c == ' ' || isGraphic c),
    ("punct", fun c => isGraphic c && !c.isAlphanum),
    ("space", fun c => c == ' ' || (9 ≤ c.toNat && c.toNat ≤ 13)), ("upper", Char.isUpper),
    ("xdigit", isHex)]

inductive BracketMember where
  | range (first last : Char)
  | named (className : String)
deriving DecidableEq, Repr

namespace BracketMember

def accepts (c : Char) : BracketMember → Bool
  | range first last => first ≤ c && c ≤ last
  | named className => (characterClasses.lookup className).any fun p => p c

end BracketMember

inductive GlobItem where
  | char (c : Char)
  | one
  | many
  /-- One of the characters of some members or, if negated, any other. -/
  | among (negated : Bool) (members : List BracketMember)
deriving DecidableEq, Repr

namespace GlobItem

def className? (m : Marked) : Option (String × Marked) := do
  let (':', _) :: m := m | none
  let name := m.takeWhile (·.1 != ':')
  let _ :: (']', _) :: rest := m.drop name.length | none
  let name := String.ofList (Marked.text name)
  if (characterClasses.lookup name).isSome then some (name, rest) else none

def escaped : Marked → Option (Char × Marked)
  | [] => none
  | ('\\', false) :: (c, _) :: m => some (c, m)
  | (c, _) :: m => some (c, m)

/-- The members of brackets up to the one that closes them. The first one may be such a bracket. -/
def members : Nat → Marked → Option (List BracketMember × Marked)
  | 0, _ => none
  | fuel + 1, m => do
    let (member, rest) ← match m with
      | ('[', false) :: inside =>
        match className? inside with
        | some (name, rest) => some (.named name, rest)
        | none => member m
      | m => member m
    match rest with
    | (']', false) :: rest => some ([member], rest)
    | rest => (members fuel rest).map fun (more, rest) => (member :: more, rest)
where
  /-- A character or a range. -/
  member (m : Marked) : Option (BracketMember × Marked) := do
    let (first, rest) ← escaped m
    match rest with
    | ('-', false) :: (']', false) :: _ => some (.range first first, rest)
    | ('-', false) :: more =>
      let (last, rest) ← escaped more
      some (.range first last, rest)
    | _ => some (.range first first, rest)

def bracket? (m : Marked) : Option (GlobItem × Marked) :=
  let (negated, m) := match m with
    | ('!', false) :: m => (true, m)
    | m => (false, m)
  (members m.length m).map fun (ms, rest) => (among negated ms, rest)

def accepts (c : Char) : GlobItem → Bool
  | char d => c == d
  | one => true
  | many => false
  | among negated members => (members.any (·.accepts c)) != negated

end GlobItem

abbrev Glob := List GlobItem

namespace Glob

def ofMarkedWithin : Nat → Marked → Glob
  | 0, _ | _, [] => []
  | fuel + 1, (c, quoted) :: m =>
    let plain := GlobItem.char c :: ofMarkedWithin fuel m
    if quoted then plain
    else match c, m with
      | '?', _ => .one :: ofMarkedWithin fuel m
      | '*', _ => .many :: ofMarkedWithin fuel m
      | '[', _ =>
        match GlobItem.bracket? m with
        | some (item, rest) => item :: ofMarkedWithin fuel rest
        | none => plain
      | '\\', (d, _) :: m => .char d :: ofMarkedWithin fuel m
      | _, _ => plain

def ofMarked (m : Marked) : Glob := ofMarkedWithin m.length m

def accepts : Glob → Text → Bool
  | [], s => s.isEmpty
  | .many :: g, [] => accepts g []
  | .many :: g, c :: s => accepts g (c :: s) || accepts (.many :: g) s
  | _ :: _, [] => false
  | item :: g, c :: s => item.accepts c && accepts g s
termination_by g s => g.length + s.length

def isProper (g : Glob) : Bool := g.any fun
  | .char _ => false
  | _ => true

/-- The text that a pattern stands for, if it is not a proper one. -/
def text (g : Glob) : Text := g.filterMap fun
  | .char c => some c
  | _ => none

/-- The first of the arguments that a text is joined from. Between two of them is a character that
no argument has. -/
def firstArgument (s : Text) : Text := s.takeWhile (· != '\x00')

def acceptsFirst (g : Glob) (s : Text) : Bool := g.accepts (firstArgument s)

def stripStart (longest : Bool) (g : Glob) (s : Text) : Text :=
  let lengths := List.range (s.length + 1)
  match (if longest then lengths.reverse else lengths).find? fun n => g.acceptsFirst (s.take n) with
  | some n => s.drop n
  | none => s

/-- What is left of a text without the end that the pattern matches. The longest one is only looked
for in the first argument. -/
def stripEnd (longest : Bool) (g : Glob) (s : Text) : Text :=
  let lengths :=
    if longest then List.range ((firstArgument s).length + 1)
    else (List.range (s.length + 1)).reverse
  match lengths.find? fun n => g.acceptsFirst (s.drop n) with
  | some n => s.take n
  | none => s

end Glob

/-- The names in a directory that a pattern matches. A dot at the start is only matched by a dot. -/
def namesMatching (t : FileTree) (dir : List Text) (g : Glob) : List Text :=
  let dotted := g.head? == some (.char '.')
  let names := (if dotted then [['.'], ['.', '.']] else []) ++ t.names dir
  names.filter fun n => (n.head? == some '.') == dotted && g.accepts n

def pathsMatching (t : FileTree) (base : Text) : List Marked → List Text
  | [] => [base]
  | component :: components =>
    let ending : Text := if components.isEmpty then [] else ['/']
    let g := Glob.ofMarked component
    if g.isProper then
      match t.entry (if base.isEmpty then ['.'] else base) with
      | .ok (dir, .directory) =>
        (namesMatching t dir g).flatMap fun n => pathsMatching t (base ++ n ++ ending) components
      | _ => []
    else
      let path := base ++ g.text
      if components.isEmpty && (t.entry path).toOption.isNone then []
      else pathsMatching t (path ++ ending) components

def splitMarked : Marked → List Marked
  | [] => [[]]
  | (c, quoted) :: m =>
    if c = '/' then [] :: splitMarked m
    else match splitMarked m with
      | [] => [[(c, quoted)]]
      | first :: more => ((c, quoted) :: first) :: more

/-- A pattern that matches nothing stands for itself. -/
def expandPath (t : FileTree) (m : Marked) : List Text :=
  if (Glob.ofMarked m).isProper then
    match pathsMatching t [] (splitMarked m) with
    | [] => [m.text]
    | paths => paths.mergeSort fun a b => !decide (b < a)
  else [m.text]

end ErasedBridges.Shell
