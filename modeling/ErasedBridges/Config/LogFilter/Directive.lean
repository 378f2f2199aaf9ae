import ErasedBridges.Config.LogFilter.FieldTest
import ErasedBridges.Config.LogFilter.Level
import ErasedBridges.Text.Utf8

/-!
# Directives

A directive sets a level for the events of a target, for those inside a span, or for those with
a field. It is written as the target, the span and the field in brackets, an equals sign and the
level, and most of it may be left out.
-/

namespace ErasedBridges

structure LogDirective where
  /-- Without a target, a directive is for all. -/
  target : Option Text
  span : Option Text
  field : Option FieldTest
  level : LogLevel
deriving DecidableEq, Repr

namespace LogDirective

def ofLevel (level : LogLevel) : LogDirective := ⟨none, none, none, level⟩

def byteLength (s : Text) : Nat := (Text.encode s).length

/-- Cuts after so many bytes, if a character ends there. -/
def cutAt? : Nat → Text → Option (Text × Text)
  | 0, s => some ([], s)
  | _ + 1, [] => none
  | n + 1, c :: s =>
    if c.utf8Size ≤ n + 1 then
      (cutAt? (n + 1 - c.utf8Size) s).map fun (before, after) => (c :: before, after)
    else none

def slice? (s : Text) (first last : Nat) : Option Text := do
  let (before, _) ← cutAt? last s
  let (_, between) ← cutAt? first before
  return between

def startsTarget (c : Char) : Bool := Text.isAlphanumeric c || c == '-' || c == ':' || c == '_'

/-- An empty level is the last one. -/
def levelFrom? (piece : Text) (first : Nat) : Option LogLevel := do
  let (_, s) ← cutAt? first piece
  if s.isEmpty then return .trace else LogLevel.parse? s

/-- The span and the field in brackets, and how many bytes before and inside of them are over. -/
def brackets? (piece : Text) (first : Nat) (s : Text) :
    Option (Option Text × Option FieldTest × Nat × Text) := do
  let span := s.takeWhile fun c => c != ']' && c != '\x7b'
  let spanEnd := first + byteLength span
  let name ← slice? piece first spanEnd
  match s.drop span.length with
  | ']' :: rest => return (some name, none, spanEnd + 1, rest)
  | _ :: inside =>
    let field := inside.takeWhile (· != '\x7d')
    let fieldEnd := spanEnd + 1 + byteLength field
    let '\x7d' :: ']' :: rest := inside.drop field.length | none
    let test ← FieldTest.parse? (← slice? piece (spanEnd + 1) fieldEnd)
    return (if name.isEmpty then none else some name, some test, fieldEnd + 2, rest)
  | [] => none

/-- Reads a directive. Blanks around it do not count for where its parts end, but the parts are
taken from the piece with its blanks. -/
def parse? (piece : Text) : Option LogDirective := do
  let s := Text.trim piece
  let target := s.takeWhile fun c => c != '=' && c != '['
  let targetEnd := byteLength target
  if s.head? != some '[' && !s.head?.any startsTarget then failure
  let name := (← slice? piece 0 targetEnd)
  match s.drop target.length with
  | '=' :: _ => return ⟨some name, none, none, ← levelFrom? piece (targetEnd + 1)⟩
  | '[' :: rest =>
    let (span, field, last, rest) ← brackets? piece (targetEnd + 1) rest
    let name := if target.isEmpty then none else some name
    match rest with
    | [] => return ⟨name, span, field, .trace⟩
    | '=' :: _ => return ⟨name, span, field, ← levelFrom? piece (last + 1)⟩
    | _ => failure
  | _ =>
    match LogLevel.parse? piece with
    | some level => return ofLevel level
    | none => return ⟨some piece, none, none, .trace⟩

/-- Whether an event alone decides if it is meant. -/
def isStatic (d : LogDirective) : Bool := d.span.isNone && d.field.all (·.value.isNone)

/-- Whether spans have to be followed. -/
def isDynamic (d : LogDirective) : Bool := d.span.isSome || d.field.isSome

def shown (d : LogDirective) : Text :=
  let field := d.field.map fun t => '\x7b' :: (t.shown ++ ['\x7d'])
  let brackets := if d.isDynamic then '[' :: (d.span.getD [] ++ field.getD [] ++ [']']) else []
  let whom := d.target.getD [] ++ brackets
  if whom.isEmpty then d.level.name else whom ++ '=' :: d.level.name

/-- The less a directive says about events, the less it is. -/
def compare (d e : LogDirective) : Ordering :=
  (Ord.compare (d.target.map byteLength) (e.target.map byteLength)).then
    ((Ord.compare d.span.isSome e.span.isSome).then
    ((Ord.compare d.field.isSome e.field.isSome).then
    ((Ord.compare d.target e.target).then
    ((Ord.compare d.span e.span).then
      (Ord.compare d.field e.field)))))

end LogDirective
end ErasedBridges
