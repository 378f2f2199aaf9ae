import ErasedBridges.Command.Failure
import ErasedBridges.Command.Limits
import ErasedBridges.Host.FileTree

/-!
# Programs over a host

A program asks its host for files and for commands, one request at a time, and goes on with the
answer. On a tree of files it is a function; what a command does to the tree is a parameter.
-/

namespace ErasedBridges

inductive HostRequest : Type → Type where
  | isFile (path : Path) : HostRequest Bool
  | readFile (path : Path) : HostRequest (Except OsError Bytes)
  | writeFile (path : Path) (content : Bytes) : HostRequest (Except OsError Unit)
  | removeFile (path : Path) : HostRequest (Except OsError Unit)
  | makeDirectories (path : Path) : HostRequest (Except OsError Unit)
  | makeTemporary : HostRequest (Except OsError Path)
  | removeTemporary (path : Path) : HostRequest Unit
  | runCommand (command : CommandSpec) (limits : RunLimits) :
      HostRequest (Except OsError CommandResult)

inductive HostProgram (α : Type) : Type 1 where
  | done (a : α)
  | ask {β : Type} (request : HostRequest β) (next : β → HostProgram α)

namespace HostProgram

def bind {α β : Type} : HostProgram α → (α → HostProgram β) → HostProgram β
  | done a, f => f a
  | ask r next, f => ask r fun b => (next b).bind f

instance : Monad HostProgram where
  pure := done
  bind := bind

def request {α : Type} (r : HostRequest α) : HostProgram α := ask r done

end HostProgram

abbrev HostJob (ε α : Type) := ExceptT ε HostProgram α

namespace HostJob

def request {ε α : Type} (fault : OsError → ε) (r : HostRequest (Except OsError α)) : HostJob ε α :=
  ExceptT.mk (HostProgram.ask r fun answer => .done (answer.mapError fault))

def readText {ε : Type} (fault : OsError → ε) (path : Path) : HostJob ε Text := do
  match Text.decode? (← request fault (.readFile path)) with
  | some s => return s
  | none => throw (fault .notUtf8)

def runChecked (command : CommandSpec) (limits : RunLimits) : HostJob RunError CommandResult := do
  let result ← request (.os command) (.runCommand command limits)
  ExceptT.mk (.done (result.check command))

end HostJob

/-- What a command does to a tree of files, and how it ends. -/
abbrev CommandRunner :=
  CommandSpec → RunLimits → FileTree → Except OsError CommandResult × FileTree

namespace FileTree

/-- The tree is left as it is where an operation fails. -/
def attempt (t : FileTree) : Except OsError FileTree → Except OsError Unit × FileTree
  | .ok t => (.ok (), t)
  | .error e => (.error e, t)

/-- The first name of its kind that is not taken. -/
def freshTemporary (t : FileTree) : Path :=
  let candidate (i : Nat) : Path := "/tmp/optbridge-".toList ++ Text.decimal i
  candidate (((List.range (t.entries.length + 1)).find? fun i =>
    (t.entry (candidate i)).toOption.isNone).getD 0)

end FileTree

namespace HostRequest

def onTree (run : CommandRunner) {β : Type} : HostRequest β → FileTree → β × FileTree
  | isFile path, t => (t.isFile path, t)
  | readFile path, t => (t.readFile path, t)
  | writeFile path content, t => t.attempt (t.writeFile path content)
  | removeFile path, t => t.attempt (t.removeFile path)
  | makeDirectories path, t => t.attempt (t.makeDirectories path)
  | makeTemporary, t =>
    let path := t.freshTemporary
    match t.makeDirectory path with
    | .ok t => (.ok path, t)
    | .error e => (.error e, t)
  | removeTemporary path, t => ((), t.removeTree path)
  | runCommand command limits, t => run command limits t

end HostRequest

namespace HostProgram

def onTree (run : CommandRunner) {α : Type} : HostProgram α → FileTree → α × FileTree
  | done a, t => (a, t)
  | ask r next, t =>
    let (answer, t) := r.onTree run t
    (next answer).onTree run t

end HostProgram
end ErasedBridges
