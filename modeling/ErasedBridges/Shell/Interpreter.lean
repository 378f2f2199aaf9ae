import ErasedBridges.Shell.Command
import ErasedBridges.Shell.Pipeline

/-!
# Running scripts

Scripts are run command by command. Substitutions, traps and functions are scripts of their own,
and fuel bounds how deep they and compound commands may be nested.
-/

namespace ErasedBridges.Shell

open Running

inductive Turn where
  | more
  | finished

/-- What a loop makes of the end of a turn. -/
def caught (turn : Running Turn) : Running Turn := fun s =>
  let loops := s.process.loops
  let (result, after) := turn.run { s with process := { s.process with loops := loops + 1 } }
  let s : State := { after with process := { after.process with loops } }
  match result with
  | .error (.leave (n + 2)) => (.error (.leave (n + 1)), s)
  | .error (.leave _) => (.ok .finished, s)
  | .error (.again (n + 2)) => (.error (.again (n + 1)), s)
  | .error (.again _) => (.ok .more, s)
  | result => (result, s)

def turnTime : Nat := 10

/-- How many turns a loop may take, which no process has the time for. -/
def maxTurns : Nat := 0x10000000000

/-- Goes on turn by turn. Every turn learns the status of the one before it. -/
def repeatTurns (turn : Nat → Running Turn) : Nat → Nat → Running Unit
  | 0, _ => endWith (.signalled kill false)
  | turns + 1, status => fun s =>
    let timed : Running Turn := do
      modifyMachine fun m => { m with clock := m.clock + turnTime }
      caught (turn status)
    match timed.run s with
    | (.ok .more, s) => (repeatTurns turn turns s.process.status).run s
    | (.ok .finished, s) => (.ok (), s)
    | (.error stop, s) => (.error stop, s)

/-- Runs scripts one after the other, of which the last is where all of them are. -/
def runSequence (inner last : ScriptRunner) : List Script → Running Unit
  | [] => pure ()
  | [s] => last s
  | s :: rest => do
    inner s
    runSequence inner last rest

def forEachIn (body : Text → Running Unit) : List Text → Running Unit
  | [] => pure ()
  | a :: as => do
    match ← caught (do body a; return .more) with
    | .more => forEachIn body as
    | .finished => pure ()

/-- Ends a strict process whose last command failed, unless that is looked at. -/
def endIfStrict (g : Setting) : Running Unit := do
  let p ← process
  if p.hasOption 'e' && !g.tested && p.status ≠ 0 then endWith (.exited p.status)

def branchOf? (output : ScriptRunner) (subject : Text) :
    List (List Word × Script) → Running (Option Script)
  | [] => return none
  | (patterns, body) :: branches => do
    if ← matches? patterns then return some body else branchOf? output subject branches
where
  matches? : List Word → Running Bool
    | [] => return false
    | w :: ws => do
      if (← expandPattern output w).accepts subject then return true else matches? ws

def run : Nat → Setting → Script → Running Unit
  | 0, _, _ => endWith (.exited 2)
  | fuel + 1, g, script => do
    let text : TextRunner := runText (run fuel ⟨false, false⟩)
    let tested : Setting := ⟨g.tested, false⟩
    let whole (g : Setting) (script : Script) : Running Unit := runToEnd text (run fuel g script)
    let output : ScriptRunner := whole ⟨false, true⟩
    let runners : Runners := ⟨text, runText (run fuel tested), output, run fuel tested⟩
    let succeeds (script : Script) : Running Bool := do
      run fuel ⟨true, false⟩ script
      return (← process).status == 0
    let finish : Running Unit := do
      settle text
      endIfStrict g
    if (← process).hasOption 'n' then return
    match script with
    | .simple line assignments words redirects =>
      runSimple runners g line assignments words redirects
      finish
    | .sequence scripts => runSequence (run fuel tested) (run fuel g) scripts
    | .background script =>
      let prepare (p : Process) : Process :=
        { p.withoutTraps with traps := (2, []) :: (3, []) :: p.withoutTraps.traps }
      inBackground prepare do
        if let .ok number := ← openPath .input nullDevice then
          modifyProcess (·.setDescriptor standardInput (some number))
        whole ⟨false, true⟩ script
      setStatus 0
    | .both first second => if ← succeeds first then run fuel g second
    | .either first second => unless ← succeeds first do run fuel g second
    | .negate script =>
      let succeeded ← succeeds script
      setStatus (if succeeded then 1 else 0)
    | .pipe stages =>
      let stage (prepare : Process → Process) (script : Script) : Running ExitStatus :=
        child (fun p => prepare p.withoutTraps) (whole ⟨g.tested, true⟩ script)
      let (_, statuses) ← runStages stage none stages
      endIfDue
      concluded statuses
      setStatus (statuses.getLastD (.exited 0)).code
      finish
    | .loop onSuccess condition body =>
      let turn (status : Nat) : Running Turn := do
        settle text
        if (← succeeds condition) == onSuccess then
          run fuel tested body
          return .more
        else
          setStatus status
          return .finished
      repeatTurns turn maxTurns 0
    | .choose condition yes no =>
      if ← succeeds condition then run fuel g yes
      else match no with
        | some no => run fuel g no
        | none => setStatus 0
    | .select line word branches =>
      modifyProcess ({ · with line })
      let subject ← expandText output word
      match ← branchOf? output subject branches with
      | none | some (.sequence []) => setStatus 0
      | some body => run fuel g body
    | .forEach line name words body =>
      modifyProcess ({ · with line })
      let values ← expandWords output words
      if values.isEmpty then setStatus 0
      forEachIn (fun v => do
        setVariable name v
        run fuel tested body) values
    | .define name body =>
      modifyProcess fun p =>
        { p with functions := (name, body) :: p.functions.filter (·.1 != name) }
      setStatus 0
    | .subshell line script redirects =>
      modifyProcess ({ · with line })
      let rs ← redirects.mapM (expandRedirect output)
      let body : Running Unit := do
        if ← redirectAll output rs then whole ⟨g.tested, true⟩ script
        else endWith (.exited 2)
      if g.isLast && !(← process).hasTraps then body
      let status ← child Process.withoutTraps body
      endIfDue
      concluded [status]
      setStatus status.code
      finish
    | .redirected line script redirects =>
      modifyProcess ({ · with line })
      withRedirects output redirects fun done =>
        if done then run fuel tested script else setStatus 2
def depth : Nat := 0x100000

def runScript : TextRunner := runText (run depth ⟨false, false⟩)

end ErasedBridges.Shell
