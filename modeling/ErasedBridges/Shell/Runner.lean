import ErasedBridges.Host.Program
import ErasedBridges.Shell.Interpreter

/-!
# Running commands on a tree of files

A command is a program with its arguments. It is run with its deadline first; where it ends
before, the deadline was none, as what it left in the background is not waited for.
-/

namespace ErasedBridges.Shell

def renamed (f : Text → Text) (t : FileTree) : FileTree :=
  ⟨t.entries.map fun (path, e) => (path.map f, e), t.current.map f⟩

def firstVariables : Variables :=
  [("HOME".toList, "/root".toList), ("LC_ALL".toList, ['C']),
    ("PATH".toList, standardPath)].map fun (name, value) => (name, ⟨some value, true, false⟩)

/-- The process that a command is started from. Its input is empty. -/
def firstProcess : Process where
  id := 100
  parent := 1
  shell := 100
  name := []
  arguments := []
  bindings := firstVariables
  scopes := []
  functions := []
  aliases := []
  documents := []
  nextDocument := 0
  descriptors := [(standardInput, 0), (standardOutput, 1), (standardError, 2)]
  held := []
  status := 0
  outputStatus := 0
  trapStatus := none
  traps := []
  asked := false
  options := []
  jobs := []
  lastJob := none
  loops := 0
  calls := 0
  line := 0
  command := none
  optionIndex := 1
  optionOffset := 0
  mask := 0o022

def firstFiles : Array OpenFile :=
  #[⟨.null, 0, true, false, false⟩, ⟨.stream standardOutput, 0, false, true, true⟩,
    ⟨.stream standardError, 0, false, true, true⟩]

def simulate (program : Program) (name : Text) (args : List Text) (deadline : Option Nat)
    (grace : Nat) (tree : FileTree) : ExitStatus × Machine :=
  let machine : Machine :=
    { tree, clock := 0, deadline, grace, streams := [], nextStream := 3, nextProcess := 101
      openFiles := firstFiles, sent := [] }
  match (Running.newProcess 0 id (start runScript program name args)).run
      ⟨machine, firstProcess⟩ with
  | (.ok status, s) => (status, s.machine)
  | (.error _, s) => (.exited 2, s.machine)

def isOverdue (m : Machine) : Bool := m.deadline.any (· ≤ m.clock)

def simulateWithin (program : Program) (name : Text) (args : List Text) (limits : RunLimits)
    (tree : FileTree) : ExitStatus × Machine :=
  let grace := 1000 * limits.grace
  let bounded := simulate program name args (limits.timeout.map (1000 * ·)) grace tree
  if isOverdue bounded.2 then bounded else simulate program name args none grace tree

def hasNul (c : CommandSpec) : Bool :=
  (c.cwd :: c.program :: c.args).any fun s => s.any fun ch => ch.toNat == 0

/-- The directory that a command runs in, and its program. -/
def locate (command : CommandSpec) (tree : FileTree) : Except OsError (List Text × Program) := do
  if hasNul command then throw .nulInCommand
  match ← tree.entry command.cwd with
  | (_, .file _) => throw .notADirectory
  | (dir, .directory) =>
    if command.program.isEmpty then throw .notFound
    let inside := renamed spelled { tree with current := dir }
    return (dir, (← findProgram inside standardPath (spelled command.program)).2)

/-- What reads of a stream give to its end. -/
def reads (m : Machine) (id : Nat) : List ReadResult :=
  (bufferfuls (m.stream id).pieces.flatten).map .ok ++ [.ok []]

/-- Runs a command in its directory. Processes know all text by its bytes. -/
def runCommand : CommandRunner := fun command limits tree =>
  match locate command tree with
  | .error e => (.error e, tree)
  | .ok (dir, program) =>
    let (status, m) := simulateWithin program (spelled command.program)
      (command.args.map spelled) limits (renamed spelled { tree with current := dir })
    let output := Output.ofReads limits.maxBytes (reads m standardOutput) (reads m standardError)
    (output.map fun output => ⟨status, output, isOverdue m⟩,
      { renamed unspelled m.tree with current := tree.current })

end ErasedBridges.Shell
