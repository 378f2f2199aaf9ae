import ErasedBridges.Shell.Format.Printing
import ErasedBridges.Shell.Utility.Quoting

/-!
# Formats of the program

The format of the program `printf`. Floating numbers have sixty-four bits before they are rounded.
Not every flag goes with every letter.
-/

namespace ErasedBridges.Shell.ProgramFormat

open Printing

/-- A number from an argument. A quote stands before a character whose code it is. -/
def number {α : Type} (s : Text) (read : Text → Leading α) (ofCode : Nat → α) : Printing α :=
  match s with
  | '"' :: c :: rest | '\'' :: c :: rest => do
    unless rest.isEmpty do fault (.afterCharacter rest)
    return ofCode c.toNat
  | s => check s (read s)

def integer (s : Text) : Printing Int := number s (signedFrom anyBase) Int.ofNat

def escape (octalZero : Bool) (s : Text) : Printing (Text × Text) := do
  match s with
  | [] => return (['\\'], [])
  | 'c' :: _ => throw .byEscape
  | '"' :: rest => return (['"'], rest)
  | 'x' :: rest =>
    let (n, count, _) := digitsFrom 16 hexDigit? (rest.take 2)
    if count = 0 then throw (.byFault .missingHex)
    return ([Char.ofNat n], rest.drop count)
  | c :: rest =>
    if c = 'u' ∨ c = 'U' then
      let width := if c = 'u' then 4 else 8
      let (n, count, _) := digitsFrom 16 hexDigit? (rest.take width)
      if count < width then throw (.byFault .missingHex)
      let hex (length : Nat) : Text :=
        let digits := Nat.toDigits 16 n
        List.replicate (length - digits.length) '0' ++ digits
      if 0xD800 ≤ n ∧ n ≤ 0xDFFF then
        throw (.byFault (.badCharacterName ('\\' :: c :: hex width)))
      -- Outside of ASCII a character is written by its number.
      let name := if n < 0x10000 then 'u' :: hex 4 else 'U' :: hex 8
      return (if n < 128 then [Char.ofNat n] else '\\' :: name.map fun d =>
        if d.isDigit || d == 'u' then d else d.toUpper, rest.drop width)
    else if (octalDigit? c).isSome then
      let (b, rest) := octalByte (if octalZero ∧ c = '0' then rest else c :: rest)
      return ([b], rest)
    else match letterEscapes.lookup c with
      | some n => return ([Char.ofNat n], rest)
      | none => return (['\\', c], rest)

def unescaped : Nat → Text → Printing Unit
  | 0, _ | _, [] => pure ()
  | fuel + 1, '\\' :: s => do
    let (b, rest) ← escape true s
    write b
    unescaped fuel rest
  | fuel + 1, c :: s => do
    write [c]
    unescaped fuel s

def isAllowed (c : Spelled) (letter : Char) : Bool :=
  let refused (given : Bool) (letters : String) : Bool := given && letters.toList.elem letter
  "aAcdeEfFgGiosuxX".toList.elem letter &&
    !refused (c.flags.elem 'I' || c.flags.elem '\'') "aAceEosxX" &&
    !refused (c.flags.elem '#') "cdisu" && !refused (c.flags.elem '0') "cs" &&
    !refused c.precision.isSome "c"

def widthArgument : Printing Int := do
  match ← argument? with
  | none => return 0
  | some s =>
    let n ← integer s
    if -0x80000000 ≤ n ∧ n < 0x80000000 then return n else throw (.byFault (.badWidth s))

def precisionArgument : Printing Int := do
  match ← argument? with
  | none => return 0
  | some s =>
    let n ← integer s
    if n < 0x80000000 then return n else throw (.byFault (.badPrecision s))

def convert (c : Conversion) : Printing Unit := do
  let s := (← argument?).getD []
  match c.letter with
  | 's' => write (c.ofText s)
  | 'c' => write (c.pad [s.headD '\x00'])
  | 'd' | 'i' => write (c.ofInt (← integer s))
  | 'o' | 'u' | 'x' | 'X' => write (c.ofNat (← number s unsignedFrom id))
  | _ =>
    let ofCode (n : Nat) : FloatNumber := FloatFormat.extended.ofDecimal false ⟨n, 0⟩
    write (c.ofFloat .extended (← number s (floatFrom .extended) ofCode))

def once : Nat → Text → Printing Unit
  | 0, _ | _, [] => pure ()
  | fuel + 1, '\\' :: s => do
    let (b, rest) ← escape false s
    write b
    once fuel rest
  | fuel + 1, '%' :: '%' :: s => do
    write ['%']
    once fuel s
  | fuel + 1, '%' :: 'b' :: s => do
    let arg := (← argument?).getD []
    unescaped (arg.length + 1) arg
    once fuel s
  | fuel + 1, '%' :: 'q' :: s => do
    match ← argument? with
    | some arg => write (shellWord arg)
    | none => pure ()
    once fuel s
  | fuel + 1, '%' :: s => do
    let (spelling, rest) := spelled "I'-+ #0".toList "lLhjtz".toList s
    let text := '%' :: s.take (s.length - rest.length)
    let c ← resolve spelling widthArgument precisionArgument
    match spelling.letter with
    | some letter =>
      unless isAllowed spelling letter do throw (.byFault (.badConversion text))
      convert c
    | none => throw (.byFault (.badConversion text))
    once fuel rest
  | fuel + 1, c :: s => do
    write [c]
    once fuel s

def print (format : Text) (arguments : List Text) : Printed :=
  printed (once (format.length + 1) format) arguments

def message : PrintFault → Text
  | .notNumber a => quotedArgument a ++ ": expected a numeric value".toList
  | .partlyNumber a => quotedArgument a ++ ": value not completely converted".toList
  | .outOfRange a => quotedArgument a ++ ": Numerical result out of range".toList
  | .afterCharacter rest => "warning: ".toList ++ rest ++
      ": character(s) following character constant have been ignored".toList
  | .missingLetter => []
  | .badConversion text => text ++ ": invalid conversion specification".toList
  | .badWidth a => "invalid field width: ".toList ++ quotedArgument a
  | .badPrecision a => "invalid precision: ".toList ++ quotedArgument a
  | .missingHex => "missing hexadecimal number in escape".toList
  | .badCharacterName text => "invalid universal character name ".toList ++ text
  | .excess a => "warning: ignoring excess arguments, starting with ".toList ++ quotedArgument a

def isFailure : PrintFault → Bool
  | .afterCharacter _ | .excess _ => false
  | _ => true

end ErasedBridges.Shell.ProgramFormat
