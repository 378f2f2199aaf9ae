import ErasedBridges.Shell.Format.Conversion
import ErasedBridges.Shell.Format.Escape

/-!
# Printing by a format

A format is gone through once and then again as long as it takes up arguments. Where there are no
arguments left, conversions write nothing or zero. What goes wrong with a number is told at once,
and the number counts as far as it could be read.
-/

namespace ErasedBridges.Shell

inductive PrintFault where
  | notNumber (argument : Text)
  | partlyNumber (argument : Text)
  | outOfRange (argument : Text)
  /-- Characters after the one whose code is a number. -/
  | afterCharacter (rest : Text)
  | missingLetter
  /-- A conversion that is not known. -/
  | badConversion (text : Text)
  | badWidth (argument : Text)
  | badPrecision (argument : Text)
  | missingHex
  | badCharacterName (text : Text)
  | excess (argument : Text)
deriving DecidableEq, Repr

inductive PrintStop where
  | byEscape
  | byFault (fault : PrintFault)
deriving DecidableEq, Repr

inductive PrintEvent where
  | text (s : Text)
  | fault (f : PrintFault)
deriving DecidableEq, Repr

structure PrintState where
  arguments : List Text
  /-- The latest first. -/
  events : List PrintEvent

abbrev Printing := ExceptT PrintStop (StateM PrintState)

namespace Printing

def note (e : PrintEvent) : Printing Unit := modify fun p => { p with events := e :: p.events }

def write (s : Text) : Printing Unit := note (.text s)

def fault (f : PrintFault) : Printing Unit := note (.fault f)

def argument? : Printing (Option Text) := do
  let p ← get
  set { p with arguments := p.arguments.tail }
  return p.arguments.head?

def check {α : Type} (argument : Text) (n : Leading α) : Printing α := do
  if n.beyond && n.rest.isEmpty then fault (.outOfRange argument)
  else if !n.rest.isEmpty then
    fault (if n.given then .partlyNumber argument else .notNumber argument)
  return n.value

/-- A conversion as it is spelled: a width or precision may be taken from the arguments. -/
structure Spelled where
  flags : Text
  width : Option Text
  precision : Option (Option Text)
  /-- Nothing at the end of the format. -/
  letter : Option Char

def extent (isDigit : Char → Bool) : Text → Option Text × Text
  | '*' :: s => (none, s)
  | s => (some (s.takeWhile isDigit), s.dropWhile isDigit)

/-- Reads a conversion from after the percent sign. Letters that `skipped` has may stand before the
letter of the conversion. -/
def spelled (flags : Text) (skipped : Text) (s : Text) : Spelled × Text :=
  let flags := s.takeWhile flags.elem
  let s := s.drop flags.length
  let (width, s) := extent Char.isDigit s
  let (precision, s) := match s with
    | '.' :: s =>
      let (precision, s) := extent Char.isDigit s
      (some precision, s)
    | s => (none, s)
  let s := s.dropWhile skipped.elem
  (⟨flags, width, precision, s.head?⟩, s.drop 1)

/-- The conversion that is spelled. A negative width puts the fill after the text, and a negative
precision is none. -/
def resolve (c : Spelled) (takeWidth takePrecision : Printing Int) : Printing Conversion := do
  let width ← match c.width with
    | some digits => pure (Int.ofNat (Text.digitsValue digits))
    | none => takeWidth
  let precision ← match c.precision with
    | none => pure none
    | some (some digits) => pure (some (Text.digitsValue digits))
    | some none =>
      let n ← takePrecision
      pure (if n < 0 then none else some n.toNat)
  let flags := if width < 0 then '-' :: c.flags else c.flags
  return ⟨flags, width.natAbs, precision, c.letter.getD '%'⟩

/-- Goes through a format as long as it takes up arguments. -/
def repeatedly (once : Printing Unit) : Nat → Printing Unit
  | 0 => pure ()
  | fuel + 1 => do
    let before := (← get).arguments.length
    once
    let after := (← get).arguments.length
    if 0 < after ∧ after < before then repeatedly once fuel

end Printing

structure Printed where
  events : List PrintEvent
  stop : Option PrintStop
  /-- The arguments that were not taken up. -/
  left : List Text

def printed (once : Printing Unit) (arguments : List Text) : Printed :=
  let (result, p) :=
    (Printing.repeatedly once (arguments.length + 1)).run ⟨arguments, []⟩
  { events := p.events.reverse
    stop := match result with
      | .ok () => none
      | .error stop => some stop
    left := p.arguments }

end ErasedBridges.Shell
