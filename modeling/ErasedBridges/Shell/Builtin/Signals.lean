import ErasedBridges.Shell.Builtin.Basic

/-!
# Builtin commands for signals and processes
-/

namespace ErasedBridges.Shell

open Running

def signalName (n : Nat) : Text :=
  if n = 0 then "EXIT".toList
  else if n = 16 then Text.decimal 16
  else if n = 34 then "RTMIN".toList
  else if n = 64 then "RTMAX".toList
  else if 34 < n && n < 50 then "RTMIN+".toList ++ Text.decimal (n - 34)
  else if 50 ≤ n then "RTMAX-".toList ++ Text.decimal (64 - n)
  else match ExitStatus.signalName? n with
    | some s => s.toList
    | none => Text.decimal n

def lastSignal : Nat := 64

def signalNumber? (s : Text) : Option Nat :=
  if !s.isEmpty && s.all Char.isDigit then Text.readDigits? lastSignal s
  else (List.range (lastSignal + 1)).find? fun n => signalName n == s.map Char.toUpper

def trap : Builtin := fun c => do
  let (_, args) ← c.options "" ""
  match args with
  | [] =>
    let traps := (← process).traps
    (List.range (lastSignal + 1)).forM fun n => match traps.lookup n with
      | some action =>
        write ("trap -- ".toList ++ quotedValue action ++ ' ' :: signalName n ++ ['\n'])
      | none => pure ()
    return 0
  | first :: rest =>
    let isNumber := !first.isEmpty && first.all Char.isDigit && (signalNumber? first).isSome
    let (action, signals) := if rest.isEmpty || isNumber then (['-'], args) else (first, rest)
    let known := signals.takeWhile fun s => (signalNumber? s).isSome
    known.forM fun s => modifyProcess fun p =>
      let n := (signalNumber? s).getD 0
      let others := p.traps.filter (·.1 != n)
      { p with traps := if action = ['-'] then others else (n, action) :: others }
    match signals.drop known.length with
    | [] => return 0
    | bad :: _ =>
      complain ("trap: ".toList ++ bad ++ ": bad trap".toList)
      return 1

def jobOf (s : Text) : Running Job := do
  let jobs := (← process).jobs
  let found := match s.drop 1 with
    | [] | ['%'] | ['+'] => jobs.head?
    | ['-'] => jobs[1]?
    | digits => jobs.find? fun job => Text.decimal job.number == digits
  match found with
  | some job => return job
  | none => refuse ("No such job: ".toList ++ s)

/-- When a signal comes that the process takes note of, if that is before a time. -/
def interruption? (time : Nat) : Running (Option Sent) := do
  let p ← process
  let m ← machine
  let deadline := match m.deadline with
    | some t => if p.asked then [] else [Sent.mk p.id t terminate]
    | none => []
  return (m.sent ++ deadline).find? fun x =>
    x.target == p.id && x.time < time && p.traps.lookup x.signal != some []

def waitFor (job : Job) : Running (Option Nat) := do
  match ← interruption? job.stop with
  | some x =>
    waitUntil x.time
    return some (128 + x.signal)
  | none =>
    waitUntil job.stop
    return none

def waitForAll : List Job → Running Nat
  | [] => return 0
  | job :: jobs => do
    match ← waitFor job with
    | some status => return status
    | none => waitForAll jobs

/-- Waits for processes and answers the status of the last one. -/
def waitForEach : Nat → List Text → Running Nat
  | status, [] => return status
  | _, target :: targets => do
    let jobs := (← process).jobs
    let found ← if target.head? == some '%' then pure (some (← jobOf target))
      else do
        let id ← naturalOf target
        pure (jobs.find? (·.id == id))
    match found with
    | none => waitForEach 127 targets
    | some job =>
      match ← waitFor job with
      | some status => return status
      | none =>
        unless job.isReaped do announce job.status
        reap
        modifyProcess fun p => { p with
          jobs := p.jobs.map fun j => if j.id = job.id then { j with isAwaited := true } else j }
        waitForEach job.status.code targets

def waitCommand : Builtin := fun c => do
  let (_, targets) ← c.options "" ""
  if targets.isEmpty then
    let status ← waitForAll (← process).jobs.reverse
    reap
    modifyProcess fun p => { p with
      jobs := p.jobs.map fun job => { job with isAwaited := job.isAwaited || job.isReaped } }
    return status
  else waitForEach 127 targets

def killUsage : Text :=
  "Usage: kill [-s sigspec | -signum | -sigspec] [pid | job]... or\nkill -l [exitstatus]".toList

/-- Sends a signal to a process. Zero is no signal. -/
def signalTo (c : BuiltinCall) (number : Nat) (target : Text) : Running Bool := do
  let fail : Running Bool := do
    report "No such process\n".toList
    return false
  if target.head? == some '%' then
    let _ ← jobOf target
    fail
  else
    let id ← match target with
      | '-' :: digits => naturalOf digits
      | digits => naturalOf digits
    let p ← process
    let now := (← machine).clock
    if id = p.id || id = 0 then
      unless number = 0 do signal c.runText number
      return true
    else if id = p.shell || id = p.parent then
      unless number = 0 do send id number
      return true
    else match p.jobs.find? fun job => job.id == id && now < job.stop with
      | some _ =>
        unless number = 0 || harmless.elem number do stopJob id number
        return true
      | none => fail

def listSignals : List Text → Running Nat
  | [] => do
    (List.range (lastSignal + 1)).forM fun n =>
      write ((if n = 0 then ['0'] else signalName n) ++ ['\n'])
    return 0
  | s :: _ => do
    let n ← naturalOf s
    let n := if 128 < n then n - 128 else n
    if 0 < n ∧ n ≤ lastSignal then
      write (signalName n ++ ['\n'])
      return 0
    else refuse ("invalid signal number or exit status: ".toList ++ s)

def killCommand : Builtin := fun c => do
  let send (number : Nat) (targets : List Text) : Running Nat := do
    if targets.isEmpty then refuse killUsage
    return if (← targets.mapM (signalTo c number)).all id then 0 else 1
  match c.args with
  | ('-' :: name) :: targets =>
    match signalNumber? name with
    | some number => send number targets
    | none =>
      let (options, targets) ← c.options "l" "s"
      let named := options.filterMap fun o => if o.1 = 's' then some o.2 else none
      let unknown := named.find? fun s => (signalNumber? s).isNone
      if let some s := unknown then
        refuse ("invalid signal number or name: ".toList ++ s)
      if options.any (·.1 == 'l') then listSignals targets
      else send ((named.getLast?.bind signalNumber?).getD terminate) targets
  | targets => send terminate targets

/-- Shows the jobs, the last first. Those that have ended are not shown again. -/
def showJobs : Builtin := fun c => do
  let (_, names) ← c.options "lp" ""
  reap
  let now := (← machine).clock
  let chosen ← names.mapM jobOf
  let jobs := (← process).jobs
  jobs.zipIdx.forM fun (job, place) => do
    if names.isEmpty || chosen.elem job then write (job.shown now place ++ ['\n'])
  modifyProcess ({ · with jobs := jobs.filter fun job => now < job.stop })
  return 0

end ErasedBridges.Shell
