import ErasedBridges.Shell.Builtins
import ErasedBridges.Shell.Parser

/-!
# Simple commands

The words of a command are expanded first. Then its redirections are done and its variables set,
and last it is looked up: among the functions, the builtin commands and the programs. What goes
wrong in a special builtin command is the end of the shell.
-/

namespace ErasedBridges.Shell

open Running

structure Setting where
  /-- Whether its failure is looked at. -/
  tested : Bool
  /-- Whether it is the last thing that its process does. -/
  isLast : Bool

structure Runners where
  /-- Text that is not where the command is. -/
  text : TextRunner
  /-- Text that is where the command is. -/
  here : TextRunner
  /-- The script of a substitution, to its end. -/
  output : ScriptRunner
  /-- The body of a function. -/
  body : ScriptRunner

/-- Runs the commands of a text one by one. A fault in it is told when it is come to. -/
def runCommands (run : ScriptRunner) : Nat → Cursor → Running Unit
  | 0, _ => pure ()
  | fuel + 1, cursor => do
    let p ← process
    let start := { cursor with
      aliases := p.aliases
      nextDocument := p.nextDocument
      documents := [] }
    match completeCommand.run start with
    | .error fault =>
      modifyProcess ({ · with line := fault.line })
      refuse fault.problem.message
    | .ok (none, _) => pure ()
    | .ok (some script, cursor) =>
      modifyProcess fun p => { p with
        documents := cursor.documents ++ p.documents
        nextDocument := cursor.nextDocument }
      run script
      runCommands run fuel cursor

def runText (run : ScriptRunner) : TextRunner := fun s =>
  runCommands run (s.length + 2) (Cursor.start s [] 0)

def maxCalls : Nat := 1000

/-- Calls a function. Its arguments are its own, and so are the variables that it declares. -/
def call (body : Running Unit) (args : List Text) : Running Unit := fun before =>
  let p := before.process
  let inner := { p with
    arguments := args
    loops := 0
    calls := p.calls + 1
    scopes := [] :: p.scopes
    optionIndex := 1
    optionOffset := 0 }
  let called : Running Unit := do
    if maxCalls < p.calls + 1 then refuse "Maximum function recursion depth (1000) reached".toList
    body
  let (result, after) := called.run { before with process := inner }
  let (_, after) := leaveScope.run after
  let process := { after.process with
    arguments := p.arguments
    loops := p.loops
    calls := p.calls
    scopes := p.scopes
    optionIndex := p.optionIndex
    optionOffset := p.optionOffset }
  (returned result, { after with process })

/-- Runs a builtin command. What it writes is handed out when it is over. -/
def runBuiltin (r : Runners) (isSpecial : Bool) (b : Builtin) (name : Text) (args : List Text) :
    Running Unit := fun before =>
  let body : Running Unit := do
    modifyProcess ({ · with command := some name })
    let status ← b ⟨r.text, r.here, name, args⟩
    match ← flush with
    | .ok () => setStatus status
    | .error _ =>
      report (name ++ ": I/O error".toList)
      setStatus (status ||| 1)
  let (result, after) := body.run before
  let process := { after.process with command := before.process.command }
  match result with
  | .error .failed =>
    let process := { process with held := [], status := 2 }
    (if isSpecial then .error .failed else .ok (), { after with process })
  | result => (result, { after with process })

def startFault (name : Text) (e : OsError) : Text × Nat :=
  match e with
  | .permissionDenied => ("Permission denied".toList, if name.elem '/' then 126 else 127)
  | .nameTooLong => (e.words, 127)
  | _ => ("not found".toList, 127)

/-- Runs a program. As the last thing of a process it takes its place. -/
def runProgram (r : Runners) (g : Setting) (path name : Text) (args : List Text) :
    Running Unit := do
  match findProgram (← machine).tree path name with
  | .ok (_, program) =>
    if g.isLast && !(← process).hasTraps then start r.text program name args
    let status ← newProcess 0 id (start r.text program name args)
    endIfDue
    concluded [status]
    setStatus status.code
  | .error e =>
    let (words, status) := startFault name e
    report (name ++ ": ".toList ++ words)
    setStatus status

def runExec (r : Runners) (args : List Text) : Running Unit := do
  match args with
  | [] => setStatus 0
  | name :: args =>
    match findProgram (← machine).tree (← searchPath) name with
    | .ok (_, program) =>
      start r.text program name args
    | .error e =>
      let (words, _) := startFault name e
      let status := if e = .permissionDenied then 126 else 127
      modifyProcess ({ · with command := some "exec".toList })
      report (name ++ ": ".toList ++ words)
      endWith (.exited status)

structure Target where
  name : Text
  args : List Text
  /-- Whether functions are passed over, as after `command`. -/
  isPlain : Bool
  /-- Whether programs are looked up where they are by default. -/
  isStandard : Bool

namespace Target

def afterOptions (isStandard : Bool) : List Text → Option (Bool × List Text)
  | ['-', '-'] :: args => some (isStandard, args)
  | ('-' :: c :: letters) :: args =>
    if (c :: letters).all (· == 'p') then afterOptions true args else none
  | args => some (isStandard, args)

/-- Takes `command` off, as often as it stands there with something to run. -/
def of (functions : List (Text × Script)) : Nat → Target → Target
  | 0, t => t
  | fuel + 1, t =>
    if t.name = "command".toList && (t.isPlain || (functions.lookup t.name).isNone) then
      match afterOptions t.isStandard t.args with
      | some (isStandard, name :: args) => of functions fuel ⟨name, args, true, isStandard⟩
      | _ => t
    else t

end Target

inductive CommandKind where
  | function (body : Script)
  | builtin (isSpecial : Bool) (b : Builtin)
  | exec
  | program

def CommandKind.of (p : Process) (t : Target) : CommandKind :=
  match if t.isPlain then none else p.functions.lookup t.name with
  | some body => function body
  | none =>
    if t.name = "exec".toList then exec
    else match builtin? t.name with
      | some b => builtin (!t.isPlain && specialCommands.elem t.name) b
      | none => program

/-- The fields of words. After a command that declares variables, words that set one are taken as
they are set. -/
def commandFields (output : ScriptRunner) : List Word → Running (List Text)
  | [] => return []
  | w :: ws => do
    let fields ← expandWord output w
    let p ← process
    let isFunction := fields.any fun name => (p.functions.lookup name).isSome
    match fields with
    | [] => commandFields output ws
    | name :: _ =>
      if name = "command".toList && !isFunction then
        return fields ++ (← commandFields output ws)
      else if declaringCommands.elem name && !isFunction then
        let rest ← ws.mapM fun w => do
          match Word.assignment? w with
          | some (name, value) => return [name ++ '=' :: (← expandValue output value)]
          | none => expandWord output w
        return fields ++ rest.flatten
      else return fields ++ (← expandWords output ws)

/-- Sets the variables that stand before a command. Those for it alone are exported to it. -/
def assignAll (output : ScriptRunner) (isOwn exported : Bool) :
    List (Text × Word) → Running (List Text)
  | [] => return []
  | (name, value) :: rest => do
    let s ← expandValue output value
    if isOwn then keepVariable name
    setVariable name s
    if isOwn || exported then
      modifyProcess fun p =>
        { p with bindings := p.bindings.update ({ · with exported := true }) name }
    return (name ++ '=' :: s) :: (← assignAll output isOwn exported rest)

def trace (errors : Option Nat) (parts : List Text) : Running Unit := do
  let p ← process
  if p.hasOption 'x' && !parts.isEmpty then
    let start := (p.bindings.value? "PS4".toList).getD []
    match errors with
    | some number =>
      let _ ← writeOpen number (toBytes (start ++ Text.join [' '] parts ++ ['\n']))
    | none => pure ()

def runTarget (r : Runners) (g : Setting) (t : Target) : CommandKind → Running Unit
  | .function body => call (r.body body) t.args
  | .builtin isSpecial b => runBuiltin r isSpecial b t.name t.args
  | .exec => runExec r t.args
  | .program => do
    let path ← if t.isStandard then pure standardPath else searchPath
    runProgram r g path t.name t.args

/-- Whether variables set before a command stay set, and whether its redirections stay, and
whether it ends the shell where it fails. -/
def CommandKind.isSpecial : CommandKind → Bool
  | builtin isSpecial _ => isSpecial
  | exec => true
  | _ => false

def CommandKind.isExec : CommandKind → Bool
  | exec => true
  | _ => false

/-- A command without a name: its status is that of the last substitution. -/
def runNameless (output : ScriptRunner) (assignments : List (Text × Word))
    (redirects : List Redirect) : Running Unit := do
  let errors := (← process).descriptors.lookup standardError
  withRedirects output redirects fun done => do
    if done then
      let parts ← assignAll output false false assignments
      trace errors parts
      setStatus (← process).outputStatus
    else setStatus 2

def runFields (r : Runners) (g : Setting) (assignments : List (Text × Word))
    (redirects : List Redirect) (name : Text) (args : List Text) : Running Unit := do
  let p ← process
  let errors := p.descriptors.lookup standardError
  let target := Target.of p.functions (args.length + 1) ⟨name, args, false, false⟩
  let kind := CommandKind.of p target
  let isOwn := !kind.isSpecial || (target.isPlain && !kind.isExec)
  let body (done : Bool) : Running Unit := do
    if !done then
      setStatus 2
      if kind.isSpecial && !target.isPlain then throw .failed
    else
      let parts ← assignAll r.output isOwn (kind.isExec && !target.args.isEmpty) assignments
      trace errors (parts ++ name :: args)
      runTarget r g target kind
  let scopedBody (done : Bool) : Running Unit := fun s =>
    if !isOwn || assignments.isEmpty then (body done).run s
    else
      let process := { s.process with scopes := [] :: s.process.scopes }
      let (result, after) := (body done).run { s with process }
      let (_, after) := leaveScope.run after
      (result, after)
  if kind.isExec then
    let rs ← redirects.mapM (expandRedirect r.output)
    body (← redirectAll r.output rs)
  else withRedirects r.output redirects scopedBody

def runSimple (r : Runners) (g : Setting) (line : Nat) (assignments : List (Text × Word))
    (words : List Word) (redirects : List Redirect) : Running Unit := do
  modifyProcess ({ · with line, outputStatus := 0 })
  match ← commandFields r.output words with
  | [] => runNameless r.output assignments redirects
  | name :: args => runFields r g assignments redirects name args

end ErasedBridges.Shell
