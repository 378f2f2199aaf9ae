import ErasedBridges.Shell.Builtin.Basic
import ErasedBridges.Shell.Format.Builtin

/-!
# Builtin commands that print or test
-/

namespace ErasedBridges.Shell.Builtin

open Running

/-- Escapes are always replaced. -/
def echo : Builtin := fun c => do
  let (silent, args) := match c.args with
    | ['-', 'n'] :: args => (true, args)
    | args => (false, args)
  let text := Text.join [' '] args
  let (text, stopped) := unescape (text.length + 1) text
  write (if silent || stopped then text else text ++ ['\n'])
  return 0

/-- What is said about the arguments comes before what is written. -/
def printf : Builtin := fun c => do
  let (_, args) ← c.options "" ""
  match args with
  | [] => refuse "usage: printf format [arg ...]".toList
  | format :: args =>
    let p := BuiltinFormat.print format args
    let failures ← p.events.filterMapM fun
      | .text s => do
        write s
        return none
      | .fault f => do
        report (BuiltinFormat.message f)
        return some f
    match p.stop with
    | some (.byFault f) =>
      report (BuiltinFormat.message f)
      return 2
    | _ => return if failures.isEmpty then 0 else 1

def test (closing : Bool) : Builtin := fun c => do
  let status ← testWith (fun _ fault => report fault.builtinMessage) closing c.args
  return status.code

def pwd : Builtin := fun c => do
  let _ ← c.options "LP" ""
  write ('/' :: Text.join ['/'] (← machine).tree.current ++ ['\n'])
  return 0

def maskText (n : Nat) : Text :=
  let digits := Nat.toDigits 8 n
  List.replicate (4 - digits.length) '0' ++ digits

def maskLetters (mask : Nat) : Text :=
  let one (who : Char) (shift : Nat) : Text :=
    let denied := mask / Nat.pow 8 shift % 8
    let letter (bit : Nat) (c : Char) : Text := if denied / bit % 2 = 0 then [c] else []
    who :: '=' :: letter 4 'r' ++ letter 2 'w' ++ letter 1 'x'
  Text.join [','] [one 'u' 2, one 'g' 1, one 'o' 0]

/-- A mask with one clause of letters applied. -/
def maskClause? (mask : Nat) (clause : Text) : Option Nat :=
  let who := clause.takeWhile "ugoa".toList.elem
  match clause.drop who.length with
  | [] => none
  | operator :: letters =>
    let bits := letters.foldl (fun n c => n ||| (if c = 'r' then 4 else if c = 'w' then 2
      else if c = 'x' then 1 else 0)) 0
    let isFor (c : Char) : Bool := who.isEmpty || who.elem 'a' || who.elem c
    let part (c : Char) (shift : Nat) : Nat :=
      let allowed := 7 - mask / Nat.pow 8 shift % 8
      let next := if !isFor c then allowed
        else if operator = '+' then allowed ||| bits
        else if operator = '-' then allowed &&& (7 - bits)
        else bits
      (7 - next) * Nat.pow 8 shift
    if "+-=".toList.elem operator && letters.all "rwxXst".toList.elem then
      some (part 'u' 2 + part 'g' 1 + part 'o' 0)
    else none

def umask : Builtin := fun c => do
  let (options, args) ← c.options "S" ""
  let mask := (← process).mask
  match args with
  | [] =>
    write ((if options.isEmpty then maskText mask else maskLetters mask) ++ ['\n'])
    return 0
  | a :: _ =>
    if a.head?.any Char.isDigit then
      let (n, count, rest) := digitsFrom 8 octalDigit? a
      if count = 0 || !rest.isEmpty || 0o777 < n then refuse ("Illegal number: ".toList ++ a)
      modifyProcess ({ · with mask := n })
    else match (Text.split (· == ',') a).foldlM maskClause? mask with
      | some n => modifyProcess ({ · with mask := n })
      | none => refuse ("Illegal mode: ".toList ++ a)
    return 0

def ulimit : Builtin := fun c => do
  let (options, args) ← c.options "HSatfdsmcvplnrw" ""
  let _ := options
  match args with
  | [] =>
    write "unlimited\n".toList
    return 0
  | a :: _ =>
    unless a = "unlimited".toList || (!a.isEmpty && a.all Char.isDigit) do
      refuse "bad number".toList
    return 0

def times : Builtin := fun _ => do
  let line := "0m0.000000s 0m0.000000s\n".toList
  write (line ++ line)
  return 0

end ErasedBridges.Shell.Builtin
