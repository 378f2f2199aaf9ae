import ErasedBridges.Shell.Process

/-!
# Processes that come from a shell

A shell waits for the processes in its foreground, and says so if a signal ended one. Meanwhile it
learns which of its jobs have ended. Jobs have numbers, which are used again when they are free.
-/

namespace ErasedBridges.Shell

/-- What is said of a process that a signal ended. Of some nothing is. -/
def deathNotice? (signal : Nat) : Option Text :=
  let notices : List (Nat × String) :=
    [(1, "Hangup"), (3, "Quit"), (4, "Illegal instruction"), (5, "Trace/breakpoint trap"),
      (6, "Aborted"), (7, "Bus error"), (8, "Floating point exception"), (9, "Killed"),
      (10, "User defined signal 1"), (11, "Segmentation fault"), (12, "User defined signal 2"),
      (14, "Alarm clock"), (15, "Terminated"), (16, "Stack fault"), (24, "CPU time limit exceeded"),
      (25, "File size limit exceeded"), (26, "Virtual timer expired"),
      (27, "Profiling timer expired"), (29, "I/O possible"), (30, "Power failure"),
      (31, "Bad system call")]
  (notices.lookup signal).map String.toList

namespace Job

def state (now : Nat) (job : Job) : Text :=
  if now < job.stop then "Running".toList
  else match job.status with
    | .exited 0 => "Done".toList
    | .exited n => "Done(".toList ++ Text.decimal n ++ [')']
    | .signalled n _ => (deathNotice? n).getD []
    | _ => []

/-- A line for a job, with a sign for the last two of them. -/
def shown (now : Nat) (place : Nat) (job : Job) : Text :=
  let sign := if place = 0 then '+' else if place = 1 then '-' else ' '
  '[' :: Text.decimal job.number ++ "] ".toList ++ [sign, ' '] ++ Text.padRight 27 (job.state now)

end Job

namespace Running

def announce (status : ExitStatus) : Running Unit :=
  match status with
  | .signalled signal _ => (deathNotice? signal).forM complain
  | _ => pure ()

def reap : Running Unit := do
  let now := (← machine).clock
  modifyProcess fun p => { p with
    jobs := p.jobs.map fun job => { job with isReaped := job.isReaped || job.stop ≤ now } }

/-- The number of a new job, which is that of one whose end is known to all if there is one. That
one is forgotten. -/
def freeNumber : Running Nat := do
  let jobs := (← process).jobs
  let isFree (n : Nat) : Bool := !jobs.any fun job =>
    job.number == n && !(job.isReaped && job.isAwaited)
  let n := (((List.range (jobs.length + 1)).map (· + 1)).find? isFree).getD 1
  modifyProcess ({ · with jobs := jobs.filter (·.number != n) })
  return n

def concluded (statuses : List ExitStatus) : Running Unit := do
  let _ ← freeNumber
  reap
  statuses.forM announce

def inBackground (prepare : Process → Process) (body : Running Unit) : Running Unit := do
  let number ← freeNumber
  let start := (← machine).clock
  let id := (← machine).nextProcess
  let status ← child prepare body
  let stop := (← machine).clock
  modifyMachine ({ · with clock := start })
  let bound := (← machine).nextProcess
  modifyProcess fun p =>
    { p with jobs := ⟨number, id, bound, stop, status, false, false⟩ :: p.jobs, lastJob := some id }

/-- Ends a job before its time: it writes no more. -/
def stopJob (id signal : Nat) : Running Unit := do
  let now := (← machine).clock
  match (← process).jobs.find? (·.id == id) with
  | none => pure ()
  | some job =>
    let isKept (c : Chunk) : Bool :=
      c.time ≤ now || c.writer < job.id || job.bound ≤ c.writer
    modifyMachine fun m => { m with
      streams := m.streams.map fun (id, s) => (id, s.ofChunks (s.chunks.filter isKept)) }
    modifyProcess fun p => { p with
      jobs := p.jobs.map fun j =>
        if j.id = id then { j with stop := now, status := .signalled signal false } else j }

def waitUntil (time : Nat) : Running Unit := modifyMachine fun m =>
  { m with clock := max time m.clock }

end Running
end ErasedBridges.Shell
