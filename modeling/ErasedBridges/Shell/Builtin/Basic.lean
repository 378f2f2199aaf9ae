import ErasedBridges.Shell.Program

/-!
# Calls of builtin commands

A builtin command is part of the shell and may change it. It answers its status, or refuses what
it was given, which is the end of a script only if the command is a special one.
-/

namespace ErasedBridges.Shell

open Running

structure BuiltinCall where
  runText : TextRunner
  /-- Runs text where the command is. -/
  runHere : TextRunner
  name : Text
  args : List Text

abbrev Builtin := BuiltinCall → Running Nat

def naturalOf (s : Text) : Running Nat :=
  match wholeNumber? baseTen s with
  | some n =>
    if 0 ≤ n ∧ n < 0x80000000 then return n.toNat else refuse ("Illegal number: ".toList ++ s)
  | none => refuse ("Illegal number: ".toList ++ s)

def readClusterWith (alone valued : String) (args : List Text) :
    Text → Running (List (Char × Text) × List Text)
  | [] => return ([], args)
  | c :: s => do
    if valued.toList.elem c then
      match s, args with
      | [], [] => refuse ("No arg for -".toList ++ c :: " option".toList)
      | [], value :: args => return ([(c, value)], args)
      | s, args => return ([(c, s)], args)
    else if alone.toList.elem c then
      let (options, args) ← readClusterWith alone valued args s
      return ((c, []) :: options, args)
    else refuse ("Illegal option -".toList ++ [c])

def readOptionsOf (alone valued : String) : Nat → List Text →
    Running (List (Char × Text) × List Text)
  | 0, args => return ([], args)
  | fuel + 1, args => do
    match args with
    | ['-', '-'] :: args => return ([], args)
    | ('-' :: c :: s) :: args =>
      let (options, args) ← readClusterWith alone valued args (c :: s)
      let (more, args) ← readOptionsOf alone valued fuel args
      return (options ++ more, args)
    | args => return ([], args)

namespace BuiltinCall

/-- The options, which stand before all other arguments, and those. -/
def options (c : BuiltinCall) (alone valued : String) :
    Running (List (Char × Text) × List Text) :=
  readOptionsOf alone valued (c.args.length + 1) c.args

def number (c : BuiltinCall) (default : Nat) : Running Nat :=
  match c.args with
  | [] => return default
  | a :: _ => naturalOf a

end BuiltinCall

/-- A value in quotes, so that a shell would read it again. Quotes in it stand in quotes of the
other kind. -/
def singleQuoted : Nat → Text → Text
  | 0, _ => []
  | fuel + 1, s =>
    let plain := s.takeWhile (· != '\'')
    let rest := s.drop plain.length
    let quotes := rest.takeWhile (· == '\'')
    let rest := rest.drop quotes.length
    '\'' :: plain ++ ['\''] ++
      (if quotes.isEmpty then [] else '"' :: quotes ++ ['"']) ++
      if rest.isEmpty then [] else singleQuoted fuel rest

def quotedValue (s : Text) : Text := singleQuoted (s.length + 1) s

def nameAndValue (a : Text) : Text × Option Text :=
  match Text.cut? ['='] a with
  | some (name, value) => (name, some value)
  | none => (a, none)

end ErasedBridges.Shell
