import ErasedBridges.Shell.Number

/-!
# Escapes

What a backslash and the characters after it stand for.
-/

namespace ErasedBridges.Shell

def letterEscapes : List (Char × Nat) :=
  [('a', 7), ('b', 8), ('t', 9), ('n', 10), ('v', 11), ('f', 12), ('r', 13), ('e', 27), ('\\', 92)]

def octalByte (s : Text) : Char × Text :=
  let (n, count, _) := digitsFrom 8 octalDigit? (s.take 3)
  (Char.ofNat (n % 256), s.drop count)

def formatEscape (s : Text) : Char × Text :=
  match s with
  | [] => ('\\', [])
  | c :: rest =>
    match letterEscapes.lookup c with
    | some n => (Char.ofNat n, rest)
    | none => if (octalDigit? c).isSome then octalByte s else ('\\', s)

/-- Text with its escapes replaced, and whether one of them ends the output. A zero may stand before
octal digits. -/
def unescape : Nat → Text → Text × Bool
  | 0, _ | _, [] => ([], false)
  | _ + 1, '\\' :: 'c' :: _ => ([], true)
  | fuel + 1, '\\' :: s =>
    let s := match s with
      | '0' :: d :: t => if (octalDigit? d).isSome then d :: t else s
      | s => s
    let (c, rest) := formatEscape s
    let (more, stopped) := unescape fuel rest
    (c :: more, stopped)
  | fuel + 1, c :: s =>
    let (more, stopped) := unescape fuel s
    (c :: more, stopped)

end ErasedBridges.Shell
