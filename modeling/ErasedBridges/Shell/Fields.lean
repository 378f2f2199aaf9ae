import ErasedBridges.Shell.Glob

/-!
# Fields

What a word is expanded to is split into fields at separators, but only where it comes from a
substitution outside of quotes. Of the separators the blanks count once, however many they are,
and not at all at the start; every other separator ends a field of its own.
-/

namespace ErasedBridges.Shell

inductive Piece where
  /-- Text that is not split. -/
  | fixed (s : Text) (quoted : Bool)
  /-- Quotes, which make a field even of nothing. -/
  | mark
  /-- The result of a substitution: values that stand apart as if a blank were between them. -/
  | split (values : List Text)
  /-- Arguments that become fields of their own. -/
  | apart (values : List Text)
deriving DecidableEq, Repr

namespace Piece

def text : Piece → Text
  | fixed s _ => s
  | mark => []
  | split values | apart values => Text.join [' '] values

def marked : Piece → Marked
  | fixed s quoted => .ofText quoted s
  | mark => []
  | split values => .ofText false (Text.join [' '] values)
  | apart values => .ofText true (Text.join [' '] values)

end Piece

structure Splitting where
  /-- The latest first. -/
  fields : List Marked
  /-- The field that is being built, in reverse. -/
  current : Marked
  /-- Whether it has quotes. -/
  isMarked : Bool
  /-- Whether it is after a separator that is a blank. -/
  afterBlank : Bool
  /-- Whether the last substitution was one of arguments that stay apart, and the one before. -/
  isApart : Bool
  wasApart : Bool
  /-- How many fields there may be, if their number is limited. The last one takes all the rest. -/
  room : Option Nat
  /-- How much of the last field counts, if not all of it does. -/
  cut : Option Nat

namespace Splitting

def isBlank (c : Char) : Bool := c == ' ' || c == '\t' || c == '\n'

def isEmpty (s : Splitting) : Bool := s.current.isEmpty && !s.isMarked

def restart (s : Splitting) : Splitting := { s with current := [], isMarked := false }

def push (c : Char) (quoted : Bool) (s : Splitting) : Splitting :=
  { s with current := (c, quoted) :: s.current }

def close (s : Splitting) : Splitting :=
  { s with fields := s.current.reverse :: s.fields }.restart

/-- A character of a substitution; nothing stands for the end of a value. -/
def step (separators : Text) (c : Option Char) (s : Splitting) : Splitting :=
  let isSeparator := match c with
    | none => true
    | some c => !s.isApart && separators.elem c
  let isBlank := isSeparator && c.all isBlank
  let kept (s : Splitting) : Splitting := match c with
    | some c => s.push c s.isApart
    | none => s
  if s.room = some 0 then
    if isBlank then kept { s with cut := some (s.cut.getD s.current.length) }
    else
      kept { s with
        cut := if isSeparator && s.afterBlank then s.cut else none
        afterBlank := false }
  else if s.afterBlank && isBlank then s.restart
  else if s.afterBlank && isSeparator then { s.restart with afterBlank := false }
  else if s.afterBlank then
    kept { s.restart with afterBlank := false }
  else if isSeparator then
    let afterBlank := if s.wasApart || s.isApart then s.afterBlank else isBlank
    let s := { s with afterBlank }
    if s.isEmpty && afterBlank then { s with afterBlank := false }
    else match s.room with
      | some 1 => kept { s with room := some 0, cut := some s.current.length }
      | room => { s with room := room.map (· - 1) }.close
  else kept s

def enter (isApart : Bool) (s : Splitting) : Splitting :=
  { s with wasApart := s.isApart, isApart, afterBlank := false }

/-- The characters of values, and where each but the last ends. -/
def characters (values : List Text) : List (Option Char) :=
  ([none] : List (Option Char)).intercalate (values.map (·.map some))

def piece (separators : Text) (s : Splitting) : Piece → Splitting
  | .fixed t quoted => t.foldl (fun s c => s.push c quoted) s
  | .mark => { s with isMarked := true }
  | .split values => (characters values).foldl (fun s c => s.step separators c) (s.enter false)
  | .apart values => (characters values).foldl (fun s c => s.step separators c) (s.enter true)

def start (room : Option Nat) : Splitting :=
  { fields := [], current := [], isMarked := false, afterBlank := false, isApart := false,
    wasApart := false, room, cut := none }

/-- The fields, with the one that is being built if there is anything of it. -/
def finish (s : Splitting) : List Marked :=
  let last := match s.cut with
    | some n => s.current.reverse.take n
    | none => s.current.reverse
  (if last.isEmpty && !s.isMarked && !s.isApart then s.fields else last :: s.fields).reverse

end Splitting

def fieldsOf (separators : Text) (room : Option Nat) (pieces : List Piece) : List Marked :=
  (pieces.foldl (fun s p => s.piece separators p) (Splitting.start room)).finish

end ErasedBridges.Shell
