import ErasedBridges.Shell.Options
import ErasedBridges.Shell.Redirection
import ErasedBridges.Shell.Utilities

/-!
# Starting programs

A program is a utility or another shell. Each is started in a process of its own, which has only
the exported variables of the one that starts it.
-/

namespace ErasedBridges.Shell

open Running

inductive Program where
  | shell
  | utility (u : Utility)

def programDirectories : List Text := ["/bin".toList, "/usr/bin".toList]

def standardPath : Text := "/usr/local/bin:/usr/bin:/bin".toList

def namedProgram? (name : Text) : Option Program :=
  if name = "sh".toList || name = "dash".toList then some .shell
  else (utilities.lookup name).map .utility

/-- The program of a path. No file of the tree is a program. -/
def programAt (t : FileTree) (path : Path) : Except OsError Program :=
  match programDirectories.findSome? fun dir => (dir ++ ['/']).isPrefixOf? path with
  | some name =>
    match namedProgram? name with
    | some p => .ok p
    | none => .error .notFound
  | none =>
    if programDirectories.elem path then .error .permissionDenied
    else (t.entry path).bind fun _ => .error .permissionDenied

/-- Looks a simple name up in directories, and tells where it is. What is found but is no program
counts if there is nothing else. -/
def searchProgram (t : FileTree) (name : Text) : List Path → Except OsError (Path × Program)
  | [] => .error .notFound
  | dir :: dirs =>
    let path := if dir.isEmpty then name else Path.join dir name
    let inPlace := programDirectories.elem dir && (name.isEmpty || name == ['.'] ||
      name == ['.', '.'])
    match if inPlace then .error .permissionDenied else programAt t path with
    | .ok p => .ok (path, p)
    | .error .permissionDenied =>
      match searchProgram t name dirs with
      | .error .notFound => .error .permissionDenied
      | result => result
    | .error _ => searchProgram t name dirs

def findProgram (t : FileTree) (searchPath : Text) (name : Text) :
    Except OsError (Path × Program) :=
  if name.elem '/' then (programAt t name).map (name, ·)
  else searchProgram t name (Text.split (· == ':') searchPath)

abbrev TextRunner := Text → Running Unit

/-- What is set for the end of a shell is run with the status that it ends with. -/
def atEnd (runText : TextRunner) : Running Unit := do
  match (← process).traps.lookup 0 with
  | none => pure ()
  | some action =>
    modifyProcess fun p => { p with traps := p.traps.filter (·.1 != 0), loops := 0 }
    let status := (← process).status
    modifyProcess ({ · with trapStatus := some status })
    let result ← fun s =>
      let (result, s) := (runText action).run s
      (.ok result, s)
    match result with
    | .error (.ended e) => endWith e
    | .error .failed => endWith (.exited 2)
    | _ => setStatus status

/-- Runs a script to its end and what is set for it. A signal leaves no time for that. -/
def runToEnd (runText : TextRunner) (body : Running Unit) : Running Unit := fun s =>
  let finish (n : Nat) : Running Unit := do
    setStatus n
    modifyProcess ({ · with command := none })
    atEnd runText
    endWith (.exited ((← process).status % 256))
  match body.run s with
  | (.error (.ended (.exited n)), s) => (finish n).run s
  | (.error (.ended status), s) => (.error (.ended status), s)
  | (.error .failed, s) => (finish 2).run s
  | (_, s) => (finish s.process.status).run s

def shellProcess (started : Text) (p : Process) : Process :=
  let bindings := p.bindings.exports
  let bindings := [(" \t\n", "IFS"), ("1", "OPTIND"), ("# ", "PS1"), ("> ", "PS2"),
    ("+ ", "PS4")].foldl (fun vs (value, name) => vs.set name.toList value.toList) bindings
  let bindings := bindings.set "PPID".toList (Text.decimal p.parent)
  { p with
    shell := p.id
    name := started
    arguments := []
    bindings
    scopes := []
    functions := []
    aliases := []
    documents := []
    status := 0
    outputStatus := 0
    trapStatus := none
    options := []
    jobs := []
    lastJob := none
    loops := 0
    calls := 0
    line := 0
    command := none
    optionIndex := 1
    optionOffset := 0 }

/-- Runs a shell with its arguments. Its script is an argument, a file or the input. -/
def shell (runText : TextRunner) (started : Text) (args : List Text) : Running Unit := do
  modifyProcess (shellProcess started)
  let current := '/' :: Text.join ['/'] (← machine).tree.current
  modifyProcess fun p => { p with bindings := p.bindings.set "PWD".toList current }
  let o ← readOptions true args
  let named (arguments : List Text) : Running Unit := modifyProcess fun p =>
    { p with name := arguments.headD p.name, arguments := arguments.drop 1, line := 1 }
  let fromInput : Running Unit := do
    let text := (← readFrom standardInput).toOption.getD []
    runText (ofBytes text)
  match o.takesScript, o.rest with
  | true, [] => refuse "-c requires an argument".toList
  | true, text :: rest =>
    named rest
    runToEnd runText do
      runText text
      if (← process).hasOption 's' then fromInput
  | false, [] =>
    setOption true 's'
    named []
    runToEnd runText fromInput
  | false, path :: rest =>
    if (← process).hasOption 's' then
      modifyProcess ({ · with arguments := path :: rest, line := 1 })
      runToEnd runText fromInput
    else match ← openPath .input path with
      | .error e => refuse (openFault false path e)
      | .ok number =>
        let text := ((← machine).rest number).toOption.getD []
        named (path :: rest)
        runToEnd runText (runText (ofBytes text))

def loadTime : Nat := 400

/-- All of a process that a program is started in. What a utility could not write is a failure. -/
def start (runText : TextRunner) (program : Program) (name : Text) (args : List Text) :
    Running Unit := do
  modifyProcess (·.withoutTraps)
  modifyMachine fun m => { m with clock := m.clock + loadTime }
  endIfDue
  match program with
  | .shell =>
    shell runText name args
    endWith (.exited 0)
  | .utility u => do
    modifyProcess ({ · with name })
    let status ← u args
    match ← flush with
    | .ok () => endWith status
    | .error e =>
      failedTo "write error".toList e
      endWith (.exited 1)

end ErasedBridges.Shell
