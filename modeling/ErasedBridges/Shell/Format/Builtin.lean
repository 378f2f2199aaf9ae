import ErasedBridges.Shell.Format.Printing

/-!
# Formats of the shell

The format of the builtin `printf`. Floating numbers are doubles.
-/

namespace ErasedBridges.Shell.BuiltinFormat

open Printing

/-- A whole number from the arguments. A quote stands before a character whose code it is. -/
def integer (signed : Bool) : Printing Int := do
  match ← argument? with
  | none => return 0
  | some ('"' :: s) | some ('\'' :: s) => return (s.head?.map fun c => Int.ofNat c.toNat).getD 0
  | some s =>
    if signed then check s (signedFrom anyBase s)
    else return Int.ofNat (← check s (unsignedFrom s))

def float : Printing FloatNumber := do
  match ← argument? with
  | none => return .zero
  | some ('"' :: s) | some ('\'' :: s) =>
    return FloatFormat.double.ofDecimal false ⟨(s.head?.map Char.toNat).getD 0, 0⟩
  | some s => check s (floatFrom .double s)

def extentArgument : Printing Int := return Int.bmod (← integer true) 0x100000000

def convert (text : Text) (c : Conversion) : Printing Unit :=
  match c.letter with
  | 's' => do write (c.ofText ((← argument?).getD []))
  | 'c' => do write (c.pad ((← argument?).map (fun s => [s.headD '\x00']) |>.getD ['\x00']))
  | 'b' => do
    let s := (← argument?).getD []
    let (s, stopped) := unescape (s.length + 1) s
    write (c.ofText s)
    if stopped then throw .byEscape
  | 'd' | 'i' => do write (c.ofInt (← integer true))
  | 'o' | 'u' | 'x' | 'X' => do write (c.ofNat (← integer false).toNat)
  | 'a' | 'A' | 'e' | 'E' | 'f' | 'F' | 'g' | 'G' => do
    write (c.ofFloat .double (← float))
  | _ => throw (.byFault (.badConversion text))

def once : Nat → Text → Printing Unit
  | 0, _ | _, [] => pure ()
  | fuel + 1, '\\' :: s => do
    let (c, rest) := formatEscape s
    write [c]
    once fuel rest
  | fuel + 1, '%' :: '%' :: s => do
    write ['%']
    once fuel s
  | fuel + 1, '%' :: s => do
    let (spelling, rest) := spelled "#-+ 0".toList [] s
    let c ← resolve spelling extentArgument extentArgument
    if spelling.letter.isNone then throw (.byFault .missingLetter)
    convert ('%' :: s.take (s.length - rest.length)) c
    once fuel rest
  | fuel + 1, c :: s => do
    write [c]
    once fuel s

def print (format : Text) (arguments : List Text) : Printed :=
  printed (once (format.length + 1) format) arguments

def message : PrintFault → Text
  | .notNumber a => a ++ ": expected numeric value".toList
  | .partlyNumber a => a ++ ": not completely converted".toList
  | .outOfRange a => a ++ ": Numerical result out of range".toList
  | .missingLetter => "missing format character".toList
  | .badConversion text => text ++ ": invalid directive".toList
  | _ => []

end ErasedBridges.Shell.BuiltinFormat
