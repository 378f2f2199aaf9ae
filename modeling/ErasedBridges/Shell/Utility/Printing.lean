import ErasedBridges.Shell.Format.Program
import ErasedBridges.Shell.Utility.Basic

/-!
# Utilities that print or wait
-/

namespace ErasedBridges.Shell

open Running

def echoed : Nat → Text → Text × Bool
  | 0, _ | _, [] => ([], false)
  | _ + 1, ['\\'] => (['\\'], false)
  | fuel + 1, '\\' :: c :: s =>
    let (written, rest) : Text × Text :=
      if c = 'x' then
        let (n, count, _) := digitsFrom 16 hexDigit? (s.take 2)
        if count = 0 then (['\\', 'x'], s) else ([Char.ofNat n], s.drop count)
      else if (octalDigit? c).isSome then
        let (b, rest) := octalByte (if c = '0' then s else c :: s)
        ([b], rest)
      else match letterEscapes.lookup c with
        | some n => ([Char.ofNat n], s)
        | none => (['\\', c], s)
    if c = 'c' then ([], true)
    else
      let (more, stopped) := echoed fuel rest
      (written ++ more, stopped)
  | fuel + 1, c :: s =>
    let (more, stopped) := echoed fuel s
    (c :: more, stopped)

/-- The program `echo`. Its options stand before all else and are made of three letters. -/
def echo : Utility := fun args => do
  let isOption (a : Text) : Bool :=
    a.head? == some '-' && a.length != 1 && (a.drop 1).all "neE".toList.elem
  let letters := ((args.takeWhile isOption).flatMap (·.drop 1))
  let text := Text.join [' '] (args.dropWhile isOption)
  let escapes := (letters.reverse.find? (· != 'n')) == some 'e'
  let (text, stopped) := if escapes then echoed (text.length + 1) text else (text, false)
  Running.write (if stopped || letters.elem 'n' then text else text ++ ['\n'])
  exitWith 0

def printf : Utility := fun args => do
  match if args.head? == some "--".toList then args.tail else args with
  | [] => misused "missing operand".toList
  | format :: args =>
    let p := ProgramFormat.print format args
    p.events.forM fun
      | .text s => Running.write s
      | .fault f => complainAs (ProgramFormat.message f)
    let failed := p.events.any fun
      | .fault f => ProgramFormat.isFailure f
      | .text _ => false
    match p.stop with
    | some (.byFault f) =>
      complainAs (ProgramFormat.message f)
      exitWith 1
    | some .byEscape => exitWith (if failed then 1 else 0)
    | none =>
      if let extra :: _ := p.left then complainAs (ProgramFormat.message (.excess extra))
      exitWith (if failed then 1 else 0)

def forever : Nat := Nat.pow 2 70

/-- A time in microseconds: a number and a unit, which is seconds if it is left out. -/
def duration? (s : Text) : Option Nat :=
  let units : List (Text × Nat) := [([], 1), (['s'], 1), (['m'], 60), (['h'], 3600), (['d'], 86400)]
  let n := floatFrom .double s
  match n.given, units.lookup n.rest, n.value.magnitude with
  | true, some unit, .finite b =>
    let (num, den) := b.ratio
    if n.value.negative && b.mantissa != 0 then none
    else some (min forever (num * 1000000 * unit / den))
  | true, some _, .infinite => if n.value.negative then none else some forever
  | _, _, _ => none

def sleep : Utility :=
  withOptions ⟨"", "", "", [("help", '?'), ("version", '#')]⟩ fun i => do
    if i.operands.isEmpty then misused "missing operand".toList
    else
      let wrong := i.operands.filter fun a => (duration? a).isNone
      wrong.forM fun a => complainAs ("invalid time interval ".toList ++ quotedArgument a)
      if wrong.isEmpty then Running.wait ((i.operands.filterMap duration?).foldr (· + ·) 0)
      else
        adviseHelp
        exitWith 1

def numbersFrom (first step last : Int) : List Int :=
  if step = 0 then []
  else (List.range (Int.fdiv (last - first) step + 1).toNat).map fun i : Nat => first + step * i

def seq : Utility := fun args =>
  let (separator, numbers) := match args with
    | ['-', 's'] :: s :: args => (s, args)
    | ('-' :: 's' :: c :: s) :: args => (c :: s, args)
    | args => (['\n'], args)
  let write (ns : List Int) : Running ExitStatus := do
    unless ns.isEmpty do
      Running.write (Text.join separator (ns.map Text.signedDecimal) ++ ['\n'])
    exitWith 0
  match numbers, numbers.mapM (wholeNumber? baseTen) with
  | [], _ => misused "missing operand".toList
  | _, some [last] => write (numbersFrom 1 1 last)
  | _, some [first, last] => write (numbersFrom first 1 last)
  | _, some [first, step, last] => write (numbersFrom first step last)
  | _ :: _ :: _ :: extra :: _, _ => misused ("extra operand ".toList ++ quotedArgument extra)
  | ns, _ => misused ("invalid floating point argument: ".toList ++
      quotedArgument ((ns.find? fun s => (wholeNumber? baseTen s).isNone).getD []))

def calculation? (operator : Text) (a b : Int) : Option Int :=
  let truth (p : Bool) : Int := if p then 1 else 0
  match String.ofList operator with
  | "+" => some (a + b)
  | "-" => some (a - b)
  | "*" => some (a * b)
  | "/" => if b = 0 then none else some (a.tdiv b)
  | "%" => if b = 0 then none else some (a.tmod b)
  | "<" => some (truth (a < b))
  | "<=" => some (truth (a ≤ b))
  | "=" | "==" => some (truth (a = b))
  | "!=" => some (truth (a ≠ b))
  | ">=" => some (truth (b ≤ a))
  | ">" => some (truth (b < a))
  | _ => none

def expr : Utility := fun args => do
  let write (s : Text) : Running ExitStatus := do
    Running.write (s ++ ['\n'])
    exitWith (if s.isEmpty || s == ['0'] then 1 else 0)
  let fail (message : String) : Running ExitStatus := do
    complainAs message.toList
    exitWith 2
  let comparisons : List Text := ["<", "<=", "=", "==", "!=", ">=", ">"].map String.toList
  match args with
  | [] => misusedWith 2 "missing operand".toList
  | [s] => write s
  | [a, operator, b] =>
    match wholeNumber? baseTen a, wholeNumber? baseTen b with
    | some x, some y =>
      match calculation? operator x y with
      | some n => write (Text.signedDecimal n)
      | none => fail (if y = 0 then "division by zero" else "syntax error")
    | _, _ =>
      if comparisons.elem operator then
        let order : Int := if a < b then -1 else if a = b then 0 else 1
        write (Text.signedDecimal ((calculation? operator order 0).getD 0))
      else fail "non-integer argument"
  | _ => fail "syntax error"

end ErasedBridges.Shell
