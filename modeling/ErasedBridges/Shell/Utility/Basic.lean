import ErasedBridges.Shell.Device
import ErasedBridges.Shell.Utility.Quoting

/-!
# What utilities have in common

A utility takes its arguments and answers how it ended. It complains in the name that it was
started by. Of the options of a utility those are known that wrapper scripts need.
-/

namespace ErasedBridges.Shell

abbrev Utility := List Text → Running ExitStatus

def exitWith (code : Nat) : Running ExitStatus := return .exited code

/-- Runs every action and fails if one of them did. -/
def allOf {α : Type} (action : α → Running Bool) : List α → Running ExitStatus
  | [] => exitWith 0
  | a :: as => do
    let done ← action a
    let rest ← allOf action as
    return if done then rest else .exited 1

def complainAs (message : Text) : Running Unit := do
  let _ ← Running.flush
  Running.complain ((← Running.process).name ++ ": ".toList ++ message)

def failedTo (what : Text) (e : OsError) : Running Unit :=
  complainAs (what ++ ": ".toList ++ e.words)

def adviseHelp : Running Unit := do
  Running.complain ("Try '".toList ++ (← Running.process).name ++
    " --help' for more information.".toList)

def misusedWith (code : Nat) (what : Text) : Running ExitStatus := do
  complainAs what
  adviseHelp
  exitWith code

def misused (what : Text) : Running ExitStatus := misusedWith 1 what

/-- The options that a utility knows: letters that stand alone, letters that a value follows, and
long names of some of them. A long name of an optional letter may have a value after a sign. -/
structure OptionTable where
  alone : String
  valued : String
  optional : String
  long : List (String × Char)

structure Invoked where
  options : List (Char × Text)
  operands : List Text

namespace Invoked

def has (i : Invoked) (letters : String) : Bool :=
  i.options.any fun o => letters.toList.elem o.1

def value? (i : Invoked) (letter : Char) : Option Text := i.options.reverse.lookup letter

/-- Without operands the input is taken. -/
def paths (i : Invoked) : List Text := if i.operands.isEmpty then [['-']] else i.operands

end Invoked

namespace OptionTable

def readLetters (t : OptionTable) (args : List Text) :
    Text → Except Text (List (Char × Text) × List Text)
  | [] => .ok ([], args)
  | c :: s =>
    if t.valued.toList.elem c then
      match s, args with
      | [], [] => .error ("option requires an argument -- '".toList ++ [c, '\''])
      | [], value :: args => .ok ([(c, value)], args)
      | s, args => .ok ([(c, s)], args)
    else if t.alone.toList.elem c then
      (t.readLetters args s).map fun (options, args) => ((c, []) :: options, args)
    else .error ("invalid option -- '".toList ++ [c, '\''])

/-- An option by its long name, or by a start of it that no other has. -/
def readLong (t : OptionTable) (args : List Text) (name : Text) :
    Except Text ((Char × Text) × List Text) :=
  let (word, value) := match Text.cut? ['='] name with
    | some (word, value) => (word, some value)
    | none => (name, none)
  let found := t.long.filter fun o => word.isPrefixOf o.1.toList
  let exact := found.filter fun o => word == o.1.toList
  let dashed (s : Text) : Text := "'--".toList ++ s ++ ['\'']
  match if exact.isEmpty then found else exact with
  | [] => .error ("unrecognized option ".toList ++ dashed name)
  | (long, letter) :: others =>
    if others.any (·.2 != letter) then
      .error ("option ".toList ++ dashed name ++ " is ambiguous; possibilities:".toList ++
        found.flatMap fun o => ' ' :: dashed o.1.toList)
    else
      let takesValue := t.valued.toList.elem letter
      match value, args with
      | some value, args =>
        if takesValue || t.optional.toList.elem letter then .ok ((letter, value), args)
        else .error ("option ".toList ++ dashed long.toList ++ " doesn't allow an argument".toList)
      | none, value :: rest =>
        if takesValue then .ok ((letter, value), rest) else .ok ((letter, []), args)
      | none, [] =>
        if takesValue then
          .error ("option ".toList ++ dashed long.toList ++ " requires an argument".toList)
        else .ok ((letter, []), args)

/-- Options may stand between the operands; two dashes end them. -/
def readWithin (t : OptionTable) : Nat → List Text → Except Text Invoked
  | 0, args => .ok ⟨[], args⟩
  | _ + 1, [] => .ok ⟨[], []⟩
  | fuel + 1, arg :: args =>
    match arg with
    | ['-', '-'] => .ok ⟨[], args⟩
    | '-' :: '-' :: name => do
      let (option, args) ← t.readLong args name
      let i ← t.readWithin fuel args
      return { i with options := option :: i.options }
    | '-' :: c :: letters => do
      let (options, args) ← t.readLetters args (c :: letters)
      let i ← t.readWithin fuel args
      return { i with options := options ++ i.options }
    | operand => do
      let i ← t.readWithin fuel args
      return { i with operands := operand :: i.operands }

def read (t : OptionTable) (args : List Text) : Except Text Invoked :=
  t.readWithin (args.length + 1) args

end OptionTable

def withOptions (t : OptionTable) (body : Invoked → Running ExitStatus) : Utility := fun args =>
  match t.read args with
  | .error fault => misused fault
  | .ok i => if i.has "?#" then exitWith 0 else body i

end ErasedBridges.Shell
