import ErasedBridges.Shell.Builtin.Control
import ErasedBridges.Shell.Builtin.Printing
import ErasedBridges.Shell.Builtin.Signals

/-!
# Builtin commands by name

Which commands are builtin, and what any name stands for: a keyword, an alias, a function, a
builtin command or a program, in this order.
-/

namespace ErasedBridges.Shell

open Running

/-- Commands that are run by the shell as no other is. -/
def controlCommands : List Text := ["command", "exec", "type", "hash"].map String.toList

def uncontrolledJob : Builtin := fun _ => refuse "job (null) not created under job control".toList

def builtins : List (Text × Builtin) :=
  let named : List (String × Builtin) :=
    [(":", fun _ => return 0), ("true", fun _ => return 0), ("false", fun _ => return 1),
      (".", source), ("alias", aliasCommand), ("bg", uncontrolledJob), ("break", leaveLoops .leave),
      ("cd", cd), ("chdir", cd), ("continue", leaveLoops .again), ("echo", Builtin.echo),
      ("eval", eval), ("exit", exit), ("export", exportCommand), ("fg", uncontrolledJob),
      ("getopts", getOptions), ("jobs", showJobs), ("kill", killCommand), ("local", localCommand),
      ("printf", Builtin.printf), ("pwd", Builtin.pwd), ("read", read),
      ("readonly", readOnlyCommand), ("return", returnCommand), ("set", setCommand),
      ("shift", shift), ("test", Builtin.test false), ("[", Builtin.test true),
      ("times", Builtin.times), ("trap", trap), ("ulimit", Builtin.ulimit),
      ("umask", Builtin.umask), ("unalias", unalias), ("unset", unset), ("wait", waitCommand)]
  named.map fun (name, b) => (name.toList, b)

def isBuiltin (name : Text) : Bool := controlCommands.elem name || (builtins.lookup name).isSome

/-- Commands whose arguments may set variables. -/
def declaringCommands : List Text := ["export", "readonly", "local"].map String.toList

inductive NameMeaning where
  | keyword
  | aliased (value : Text)
  | function
  | builtin (isSpecial : Bool)
  | program (path : Path)
  | unknown

namespace NameMeaning

def of (t : FileTree) (p : Process) (searchPath name : Text) : NameMeaning :=
  if reserved.elem name then keyword
  else match p.aliases.lookup name with
    | some value => aliased value
    | none =>
      if (p.functions.lookup name).isSome then function
      else if isBuiltin name then builtin (specialCommands.elem name)
      else match findProgram t searchPath name, name.elem '/' && (t.entry name).toOption.isSome with
        | .ok (path, _), _ => program path
        | _, true => program name
        | _, _ => unknown

def described (name : Text) : NameMeaning → Text
  | keyword => name ++ " is a shell keyword".toList
  | aliased value => name ++ " is an alias for ".toList ++ value
  | function => name ++ " is a shell function".toList
  | builtin true => name ++ " is a special shell builtin".toList
  | builtin false => name ++ " is a shell builtin".toList
  | program path => name ++ " is ".toList ++ path
  | unknown => name ++ ": not found".toList

/-- What would have to be written for the same, if there is a meaning. -/
def spelling? (name : Text) : NameMeaning → Option Text
  | aliased value => some ("alias ".toList ++ name ++ '=' :: quotedValue value)
  | program path => some path
  | unknown => none
  | _ => some name

def isKnown : NameMeaning → Bool
  | unknown => false
  | _ => true

end NameMeaning

def searchPath : Running Text := return ((← process).bindings.value? "PATH".toList).getD []

def meaning (path name : Text) : Running NameMeaning :=
  return .of (← machine).tree (← process) path name

def typeCommand : Builtin := fun c => do
  let path ← searchPath
  let found ← c.args.mapM fun name => do
    let m ← meaning path name
    write (m.described name ++ ['\n'])
    return m.isKnown
  return if found.all id then 0 else 127

def hash : Builtin := fun c => do
  let (_, names) ← c.options "r" ""
  let path ← searchPath
  let found ← names.mapM fun name => do
    if (← meaning path name).isKnown then return true
    else
      report (name ++ ": not found".toList)
      return false
  return if found.all id then 0 else 1

/-- The command `command` where it only tells what a name stands for. -/
def commandCommand : Builtin := fun c => do
  let (options, args) ← c.options "pvV" ""
  let path ← if options.any (·.1 == 'p') then pure standardPath else searchPath
  match (options.filter (·.1 != 'p')).getLast?.map (·.1), args with
  | some letter, name :: _ =>
    let m ← meaning path name
    if letter = 'V' then write (m.described name ++ ['\n'])
    else if let some s := m.spelling? name then write (s ++ ['\n'])
    return if m.isKnown then 0 else 127
  | _, _ => return 0

def builtin? (name : Text) : Option Builtin :=
  match String.ofList name with
  | "command" => some commandCommand
  | "type" => some typeCommand
  | "hash" => some hash
  | _ => builtins.lookup name

end ErasedBridges.Shell
