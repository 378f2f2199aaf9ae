import ErasedBridges.CommandLine.Scan
import ErasedBridges.Host.Path
import ErasedBridges.Text.Decimal

/-!
# What the command line asks for
-/

namespace ErasedBridges.CommandLine

inductive Command where
  /-- Patches the whole library in place. -/
  | run (json : Bool)
  /-- Removes the cast of one bridge of one class. -/
  | eliminateCast (input : Path) (method : Option Text) (output : Option Path)
  /-- Lists the methods of interfaces that the empty class needs bridges for. -/
  | catalog (interfaces : List Path) (json : Bool)
  /-- Adds the interfaces and their bridges to the empty class. -/
  | patchEmpty (input : Path) (interfaces : List Path) (line : Nat) (output : Option Path)
deriving DecidableEq, Repr

structure Invocation where
  root : Path
  config : Option Path
  command : Command
deriving DecidableEq, Repr

def isPath (a : Text) : Bool := !a.isEmpty

/-- A line number. Zero may have a minus sign. -/
def line? (a : Text) : Option Nat :=
  match a with
  | '-' :: digits => Text.readDigits? 0 digits
  | a => Text.readDecimal? Text.maxLine a

structure OperandFormat where
  name : String
  about : String
  repeats : Bool

structure CommandFormat where
  name : String
  about : String
  operand : Option OperandFormat
  options : List OptionFormat
  command? : Scanned → Option Command

/-- Options that may stand before the command or after it. -/
def globalOptions : List OptionFormat :=
  [.value "root" "ROOT"
      "Project root; relative config paths resolve against it [default: .]" isPath,
    .value "config" "CONFIG"
      "Config file (defaults to `$OPTBRIDGE_CONFIG` or `<root>/optbridge.toml`)" isPath]

def jsonOption : OptionFormat := .flag "json" "Emit JSON suitable for CI"

def outputOption : OptionFormat :=
  (OptionFormat.value "output" "OUTPUT" "Output file (defaults to stdout)" isPath).withShort 'o'

def methodOption : OptionFormat :=
  .value "method" "METHOD" "Method whose bridge is rewritten (defaults to the configured one)"
    fun _ => true

def interfaceOption : OptionFormat :=
  (OptionFormat.value "interface" "INTERFACES"
    "Disassembled generic and specialised interfaces" isPath).repeated.mandatory

def lineOption : OptionFormat :=
  (OptionFormat.value "line" "LINE" "Source line of the empty class's declaration"
    fun a => (line? a).isSome).mandatory

def commandFormats : List CommandFormat :=
  [{ name := "run"
     about := "Patch the whole library in place through the configured assembler"
     operand := none
     options := [jsonOption]
     command? := fun s => some (.run (s.has "json")) },
   { name := "eliminate-cast"
     about := "Remove the argument cast from one `Some` class's bridge"
     operand := some ⟨"INPUT", "Disassembled class", false⟩
     options := [methodOption, outputOption]
     command? := fun s => do
       return .eliminateCast (← s.operands.head?) (s.value? "method") (s.value? "output") },
   { name := "catalog"
     about := "List the interface methods the empty class needs bridges for"
     operand := some ⟨"INTERFACES", "Disassembled generic and specialised interfaces", true⟩
     options := [jsonOption]
     command? := fun s =>
       if s.operands.isEmpty then none else some (.catalog s.operands (s.has "json")) },
   { name := "patch-empty"
     about := "Add the specialised interfaces and their bridges to the empty class"
     operand := some ⟨"INPUT", "Disassembled empty class", false⟩
     options := [interfaceOption, lineOption, outputOption]
     command? := fun s => do
       let interfaces := s.values "interface"
       let line ← (s.value? "line").bind line?
       if interfaces.isEmpty then failure
       return .patchEmpty (← s.operands.head?) interfaces line (s.value? "output") }]

def commandFormat? (name : Text) : Option CommandFormat :=
  commandFormats.find? (·.name.toList == name)

namespace CommandFormat

def format (c : CommandFormat) : Format where
  command := some c.name.toList
  options := globalOptions ++ c.options
  operands := match c.operand with
    | none => some 0
    | some o => if o.repeats then none else some 1
  isOperand := isPath

end CommandFormat

def topFormat : Format := ⟨none, globalOptions, some 1, fun _ => true⟩

def helpName : Text := "help".toList

def helpDeparture : List Text → Departure
  | [] => .help none
  | [name] =>
    if name = helpName ∨ (commandFormat? name).isSome then .help (some name) else .usage
  | _ => .usage

/-- Reads the arguments. An option after the command goes before one in front of it. -/
def parse (args : List Text) : Except Departure Invocation := do
  let top ← topFormat.scanAll args
  let name :: _ := top.operands | throw .usage
  if name = helpName then throw (helpDeparture top.rest)
  let some c := commandFormat? name | throw .usage
  let s ← c.format.scanAll top.rest
  let some command := c.command? s | throw .usage
  let option (name : String) : Option Text := (s.value? name).or (top.value? name)
  return ⟨(option "root").getD ['.'], option "config", command⟩

end ErasedBridges.CommandLine
