import ErasedBridges.Text.Basic

/-!
# Scanning arguments

Options are long (`--name`) or short (`-n`), and may take a value: after an equals sign, directly
after a short option, or as the next argument. The arguments are scanned from left to right, and
the first that does not fit decides.
-/

namespace ErasedBridges.CommandLine

structure OptionFormat where
  name : String
  about : String
  short : Option Char
  /-- What its value is called, if it takes one. -/
  valueName : Option String
  repeats : Bool
  required : Bool
  isValid : Text → Bool

namespace OptionFormat

def flag (name about : String) : OptionFormat :=
  ⟨name, about, none, none, false, false, fun _ => true⟩

def value (name valueName about : String) (isValid : Text → Bool) : OptionFormat :=
  ⟨name, about, none, some valueName, false, false, isValid⟩

def withShort (c : Char) (o : OptionFormat) : OptionFormat := { o with short := some c }

def repeated (o : OptionFormat) : OptionFormat := { o with repeats := true }

def mandatory (o : OptionFormat) : OptionFormat := { o with required := true }

def takesValue (o : OptionFormat) : Bool := o.valueName.isSome

end OptionFormat

structure Format where
  /-- The command that the level belongs to; none at the top. -/
  command : Option Text
  options : List OptionFormat
  /-- The most operands; any number if there is none. -/
  operands : Option Nat
  isOperand : Text → Bool

namespace Format

/-- At the top the first operand is the name of a command, which takes all that follows. -/
def isTop (f : Format) : Bool := f.command.isNone

end Format

inductive Departure where
  | usage
  /-- Help is asked for, for a command or for all of them. -/
  | help (command : Option Text)
  | version
deriving DecidableEq, Repr

structure Scanned where
  options : List (String × Text)
  operands : List Text
  rest : List Text
deriving DecidableEq, Repr

namespace Scanned

def values (s : Scanned) (name : String) : List Text :=
  (s.options.filter (·.1 == name)).map (·.2)

def value? (s : Scanned) (name : String) : Option Text := s.options.lookup name

def has (s : Scanned) (name : String) : Bool := (s.value? name).isSome

end Scanned

namespace Format

def addOption (o : OptionFormat) (value : Text) (s : Scanned) : Except Departure Scanned :=
  if !o.isValid value || (s.has o.name && !o.repeats) then .error .usage
  else .ok { s with options := s.options ++ [(o.name, value)] }

def addOperand (f : Format) (a : Text) (s : Scanned) : Except Departure Scanned :=
  if !f.isOperand a || f.operands.any (· ≤ s.operands.length) then .error .usage
  else .ok { s with operands := s.operands ++ [a] }

/-- Whether an argument is an option by its look. A single dash is not. -/
def looksLikeOption (a : Text) : Bool := a.head? == some '-' && 1 < a.length

def nextValue (args : List Text) : Except Departure (Text × List Text) :=
  match args with
  | a :: args => if looksLikeOption a then .error .usage else .ok (a, args)
  | [] => .error .usage

def scanLong (f : Format) (a : Text) (args : List Text) (s : Scanned) :
    Except Departure (Scanned × List Text) := do
  let (name, given) := match Text.cut? ['='] a with
    | some (name, value) => (name, some value)
    | none => (a, none)
  match f.options.find? (·.name.toList == name), given with
  | some o, some value =>
    if o.takesValue then return (← addOption o value s, args) else throw .usage
  | some o, none =>
    if o.takesValue then
      let (value, args) ← nextValue args
      return (← addOption o value s, args)
    else return (← addOption o [] s, args)
  | none, none =>
    throw (if name = "help".toList then .help f.command
      else if f.isTop && name = "version".toList then .version
      else .usage)
  | none, some _ => throw .usage

def scanShort (f : Format) (a : Text) (args : List Text) (s : Scanned) :
    Except Departure (Scanned × List Text) := do
  let c :: attached := a | throw .usage
  match f.options.find? (·.short == some c) with
  | some o =>
    let (value, args) ← match attached with
      | [] => nextValue args
      | '=' :: value => pure (value, args)
      | value => pure (value, args)
    return (← addOption o value s, args)
  | none =>
    throw (if c = 'h' then .help f.command
      else if f.isTop && c = 'V' then .version
      else .usage)

/-- Scans arguments; each takes one unit of fuel at least. -/
def scan (f : Format) : Nat → List Text → Scanned → Except Departure Scanned
  | 0, _, s | _, [], s => .ok s
  | fuel + 1, a :: args, s =>
    if a = "--".toList then do
      if f.isTop then throw .usage
      args.foldlM (fun s a => f.addOperand a s) s
    else if "--".toList.isPrefixOf a then do
      let (s, args) ← f.scanLong (a.drop 2) args s
      f.scan fuel args s
    else if looksLikeOption a then do
      let (s, args) ← f.scanShort a.tail args s
      f.scan fuel args s
    else do
      let s ← f.addOperand a s
      if f.isTop then return { s with rest := args } else f.scan fuel args s

def scanAll (f : Format) (args : List Text) : Except Departure Scanned :=
  f.scan (args.length + 1) args ⟨[], [], []⟩

end Format
end ErasedBridges.CommandLine
