import ErasedBridges.Command.Status
import ErasedBridges.Shell.Machine
import ErasedBridges.Shell.Variables

/-!
# Processes

Processes run one after the other, each with its own view of the time: where two would run at
once, both start at the same time and the later end counts. Time passes in waiting and, a little,
where a process starts or a program is loaded and in each turn of a loop, so that loops without
end reach a deadline too. At the deadline every process is asked to terminate, and a while later
all that are left are ended.

Descriptors of a process stand for open files, which processes share with those they come from.
-/

namespace ErasedBridges.Shell

structure Job where
  number : Nat
  id : Nat
  /-- The number after those of the processes that come from it. -/
  bound : Nat
  stop : Nat
  status : ExitStatus
  /-- Whether the shell knows that it has ended. -/
  isReaped : Bool
  /-- Whether the shell was asked to wait for it. -/
  isAwaited : Bool
deriving DecidableEq, Repr

structure Process where
  id : Nat
  parent : Nat
  /-- The process of the shell that this one belongs to. -/
  shell : Nat
  name : Text
  arguments : List Text
  bindings : Variables
  /-- The values outside of the variables that functions and commands have for themselves, by
  function and command, the innermost first. -/
  scopes : List (List (Text × Option Variable))
  functions : List (Text × Script)
  aliases : List (Text × Text)
  /-- The documents of the script, by number. -/
  documents : List (Nat × Word)
  nextDocument : Nat
  /-- The numbers of open files. -/
  descriptors : List (Nat × Nat)
  /-- What is written but not yet handed out, the latest first. -/
  held : List Bytes
  /-- Of the last command. -/
  status : Nat
  /-- Of the last substitution of the output of a command. -/
  outputStatus : Nat
  /-- While something set for a signal or the end is run, the status from before. -/
  trapStatus : Option Nat
  /-- What to do on a signal; nothing if the text is empty. Zero stands for the end. -/
  traps : List (Nat × Text)
  /-- Whether the request to terminate has come. -/
  asked : Bool
  /-- The letters of the options that are on. -/
  options : List Char
  /-- The latest first. -/
  jobs : List Job
  /-- The last process in the background. -/
  lastJob : Option Nat
  /-- How many loops the commands are in. -/
  loops : Nat
  /-- How many functions the commands are in. -/
  calls : Nat
  line : Nat
  /-- The builtin command that is run. -/
  command : Option Text
  /-- The argument that options are looked for in next, and how much of the one before it has been
  looked at. -/
  optionIndex : Nat
  optionOffset : Nat
  mask : Nat

structure State where
  machine : Machine
  process : Process

inductive Stop where
  | ended (status : ExitStatus)
  /-- The shell complained, and ends unless a builtin command is to blame. -/
  | failed
  /-- Leaves so many loops. -/
  | leave (loops : Nat)
  /-- Goes on with the next turn of the last of so many loops. -/
  | again (loops : Nat)
  /-- Leaves a function. -/
  | returned
deriving DecidableEq, Repr

abbrev Running := ExceptT Stop (StateM State)

def terminate : Nat := 15

def kill : Nat := 9

def pipeSignal : Nat := 13

def standardInput : Nat := 0

def standardOutput : Nat := 1

def standardError : Nat := 2

namespace Process

def setDescriptor (descriptor : Nat) (number : Option Nat) (p : Process) : Process :=
  let others := p.descriptors.filter (·.1 != descriptor)
  { p with descriptors := number.toList.map (descriptor, ·) ++ others }

/-- Signals that are ignored stay so in a process of its own, the others do what they do. -/
def withoutTraps (p : Process) : Process := { p with traps := p.traps.filter (·.2.isEmpty) }

def hasTraps (p : Process) : Bool := p.traps.any (!·.2.isEmpty)

def hasOption (letter : Char) (p : Process) : Bool := p.options.elem letter

end Process

namespace Running

def machine : Running Machine := return (← get).machine

def process : Running Process := return (← get).process

def modifyMachine (f : Machine → Machine) : Running Unit :=
  modify fun s => { s with machine := f s.machine }

def modifyProcess (f : Process → Process) : Running Unit :=
  modify fun s => { s with process := f s.process }

def setStatus (n : Nat) : Running Unit := modifyProcess ({ · with status := n })

def endWith {α : Type} (status : ExitStatus) : Running α := throw (.ended status)

/-- Writes to an open file at once. Where nobody reads, a signal ends the process unless it is
ready for that. -/
def writeOpen (number : Nat) (bytes : Bytes) : Running (Except OsError Unit) := fun s =>
  match s.machine.write s.process.id number bytes with
  | .ok machine => (.ok (.ok ()), { s with machine })
  | .error e =>
    if e = brokenPipe && (s.process.traps.lookup pipeSignal).isNone then
      (.error (.ended (.signalled pipeSignal false)), s)
    else (.ok (.error e), s)

def writeTo (descriptor : Nat) (bytes : Bytes) : Running (Except OsError Unit) := do
  match (← process).descriptors.lookup descriptor with
  | none => return .error badDescriptor
  | some number => writeOpen number bytes

def writeBytes (bytes : Bytes) : Running Unit :=
  modifyProcess fun p => { p with held := bytes :: p.held }

def write (text : Text) : Running Unit := writeBytes (toBytes text)

def flush : Running (Except OsError Unit) := do
  let bytes := (← process).held.reverse.flatten
  modifyProcess ({ · with held := [] })
  if bytes.isEmpty then return .ok () else writeTo standardOutput bytes

def complain (line : Text) : Running Unit := do
  let _ ← writeTo standardError (toBytes (line ++ ['\n']))

def peekFrom (descriptor : Nat) : Running (Except OsError Bytes) := do
  match (← process).descriptors.lookup descriptor with
  | none => return .error badDescriptor
  | some number => return (← machine).rest number

def advance (descriptor count : Nat) : Running Unit := do
  match (← process).descriptors.lookup descriptor with
  | none => pure ()
  | some number => modifyMachine (·.advance number count)

def change (f : FileTree → Except OsError FileTree) : Running (Except OsError Unit) := do
  match f (← machine).tree with
  | .ok tree =>
    modifyMachine ({ · with tree })
    return .ok ()
  | .error e => return .error e

/-- Runs something in a process of its own, after a delay. What it writes and reads stays, and so
does the time that it took. -/
def newProcess (delay : Nat) (prepare : Process → Process) (body : Running Unit) :
    Running ExitStatus := fun s =>
  let id := s.machine.nextProcess
  let clock := s.machine.clock + delay
  let inner := prepare { s.process with id, parent := s.process.id, jobs := [], held := [] }
  let (result, after) := body.run ⟨{ s.machine with clock, nextProcess := id + 1 }, inner⟩
  let status := match result with
    | .error (.ended status) => status
    | .error .failed => .exited 2
    | _ => .exited (after.process.status % 256)
  let tree := { after.machine.tree with current := s.machine.tree.current }
  (.ok status, ⟨{ after.machine with tree }, s.process⟩)

def startTime : Nat := 100

def child (prepare : Process → Process) (body : Running Unit) : Running ExitStatus :=
  newProcess startTime prepare body

/-- A stream, and the numbers of its open files for writing and for reading. -/
def makeStream : Running (Nat × Nat × Nat) := do
  let m ← machine
  let id := m.nextStream
  let (writing, m) := m.addOpen ⟨.stream id, 0, false, true, true⟩
  let (reading, m) := m.addOpen ⟨.stream id, 0, true, false, false⟩
  modifyMachine fun _ => { m with nextStream := id + 1 }
  return (id, writing, reading)

def capture {α : Type} (body : Running α) : Running (α × Bytes) := do
  let (id, writing, _) ← makeStream
  let descriptors := (← process).descriptors
  modifyProcess (·.setDescriptor standardOutput writing)
  let a ← body
  modifyProcess ({ · with descriptors })
  let bytes := ((← machine).stream id).pieces.flatten
  modifyMachine (·.forget id)
  return (a, bytes)

/-- Waits, unless the request to terminate comes first, or the end. -/
def wait (time : Nat) : Running ExitStatus := do
  let m ← machine
  let p ← process
  let ignores := p.traps.lookup terminate == some []
  let target := m.clock + time
  let asked := if p.asked || ignores then none else m.deadline
  match asked, m.killTime with
  | some t, _ =>
    if t ≤ target then
      modifyMachine fun m => { m with clock := max t m.clock }
      return .signalled terminate false
  | none, some t =>
    if t ≤ target then
      modifyMachine fun m => { m with clock := max t m.clock }
      return .signalled kill false
  | none, none => pure ()
  modifyMachine ({ · with clock := target })
  return .exited 0

def harmless : List Nat := [17, 18, 23, 28]

/-- Takes note of a signal; `handle` runs what the process has set for it. -/
def signal (handle : Text → Running Unit) (number : Nat) : Running Unit := do
  if number = kill then endWith (.signalled kill false)
  match (← process).traps.lookup number with
  | some action => fun s =>
    let before := s.process
    let inner := { before with trapStatus := some before.status }
    let (result, after) := (handle action).run { s with process := inner }
    let status := match result with
      | .ok () => before.status
      | .error _ => after.process.status
    (result, { after with
      process := { after.process with status, trapStatus := before.trapStatus } })
  | none => unless harmless.elem number do endWith (.signalled number false)

def isDue (time : Option Nat) : Running Bool := return time.any (· ≤ (← machine).clock)

def takeSent (p : Nat → Bool) : Running (List Nat) := fun s =>
  let (taken, sent) := s.machine.sent.partition fun x =>
    x.target == s.process.id && x.time ≤ s.machine.clock && p x.signal
  (.ok (taken.map Sent.signal), { s with machine := { s.machine with sent } })

def endIfDue : Running Unit := do
  let p ← process
  let isDeadly (number : Nat) : Bool :=
    number = kill || ((p.traps.lookup number).isNone && !harmless.elem number)
  if let number :: _ := ← takeSent isDeadly then endWith (.signalled number false)
  if (← isDue (← machine).deadline) && !p.asked && isDeadly terminate then
    endWith (.signalled terminate false)
  if ← isDue (← machine).killTime then endWith (.signalled kill false)

def awaitEndOf (number : Nat) : Running Unit := do
  modifyMachine (·.awaitEnd number)
  endIfDue

def awaitEnd (descriptor : Nat) : Running Unit := do
  match (← process).descriptors.lookup descriptor with
  | none => pure ()
  | some number => awaitEndOf number

def readFrom (descriptor : Nat) : Running (Except OsError Bytes) := do
  let result ← peekFrom descriptor
  if let .ok bytes := result then
    advance descriptor bytes.length
    awaitEnd descriptor
  return result

def settle (handle : Text → Running Unit) : Running Unit := do
  endIfDue
  let due ← takeSent fun _ => true
  due.forM (signal handle)
  if (← isDue (← machine).deadline) && !(← process).asked then
    modifyProcess ({ · with asked := true })
    signal handle terminate
  endIfDue

def send (target number : Nat) : Running Unit := modifyMachine fun m =>
  { m with sent := m.sent ++ [⟨target, m.clock, number⟩] }

end Running
end ErasedBridges.Shell
