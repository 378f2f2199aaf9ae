import ErasedBridges.Shell.Process

/-!
# Pipelines

What writes to a stream and what reads it run at once, but the writer is simulated first. So only
afterwards it is known when the reading is over, and whether more would have been read than there
was room for. Where the writer went on after the reader had left, both are run once more with that
known, and where the reader took all that there was room for, they are with more room.
-/

namespace ErasedBridges.Shell

open Running

structure StreamUse where
  /-- When the reading is over. -/
  closing : Option Nat
  room : Nat

structure Connected where
  statuses : List ExitStatus
  /-- When the writer was over. -/
  writerEnd : Nat
  /-- When the first of those that read was over. -/
  readerEnd : Nat
  stream : Stream
  /-- How much of the stream was read. -/
  taken : Nat

namespace Connected

def learned? (c : Connected) (known : StreamUse) : Option StreamUse :=
  if c.stream.isFull && c.stream.size ≤ c.taken then some { known with room := 8 * known.room }
  else if known.closing.isNone && (c.stream.isFull || c.stream.goesOnAfter c.readerEnd) then
    some { known with closing := some c.readerEnd }
  else none

end Connected

/-- Runs what writes and what reads, each given the number of an open file. What reads tells when
the first of its processes was over. -/
def connectOnce (write : Nat → Running ExitStatus)
    (read : Nat → Running (Nat × List ExitStatus)) (known : StreamUse) : Running Connected := do
  let (id, into, out) ← makeStream
  modifyMachine (·.updateStream id
    ({ · with closing := known.closing, room := some known.room }))
  let start := (← machine).clock
  let status ← write into
  let writerEnd := (← machine).clock
  modifyMachine fun m =>
    { m.updateStream id ({ · with ending := some writerEnd }) with clock := start }
  let (readerEnd, statuses) ← read out
  let m ← machine
  modifyMachine fun m => { m.forget id with clock := max writerEnd m.clock }
  let taken := ((m.openFiles[out]?).map (·.offset)).getD 0
  return ⟨status :: statuses, writerEnd, readerEnd, m.stream id, taken⟩

/-- Connects as often as something is learned, and tells when the writer was over. -/
def connect (write : Nat → Running ExitStatus) (read : Nat → Running (Nat × List ExitStatus)) :
    Nat → StreamUse → Running (Nat × List ExitStatus)
  | 0, known => do
    let c ← connectOnce write read known
    return (c.writerEnd, c.statuses)
  | tries + 1, known => fun s =>
    match (connectOnce write read known).run s with
    | (.error stop, after) => (.error stop, after)
    | (.ok c, after) =>
      match c.learned? known with
      | some known => (connect write read tries known).run s
      | none => (.ok (c.writerEnd, c.statuses), after)

/-- How often a pipeline is run at most. -/
def maxTries : Nat := 32

/-- Runs the stages of a pipeline: what each writes is read by the next. Tells when the first is
over, and how all of them ended. -/
def runStages (stage : (Process → Process) → Script → Running ExitStatus) (input : Option Nat) :
    List Script → Running (Nat × List ExitStatus)
  | [] => return (0, [])
  | script :: rest => do
    let reading (p : Process) : Process := match input with
      | some number => p.setDescriptor standardInput (some number)
      | none => p
    match rest with
    | [] =>
      let status ← stage reading script
      return ((← machine).clock, [status])
    | rest =>
      connect (fun into => stage (fun p => (reading p).setDescriptor standardOutput (some into))
          script)
        (fun out => runStages stage (some out) rest) maxTries ⟨none, 0x10000⟩

end ErasedBridges.Shell
