import ErasedBridges.Text.Decimal

/-!
# How a process ended
-/

namespace ErasedBridges

inductive ExitStatus where
  | exited (code : Nat)
  | signalled (signal : Nat) (coreDumped : Bool)
  | stopped (signal : Nat)
  | continued
  | unrecognised (wait : Nat)
deriving DecidableEq, Repr

namespace ExitStatus

def signalNames : List String :=
  ["HUP", "INT", "QUIT", "ILL", "TRAP", "ABRT", "BUS", "FPE", "KILL", "USR1", "SEGV", "USR2",
    "PIPE", "ALRM", "TERM", "STKFLT", "CHLD", "CONT", "STOP", "TSTP", "TTIN", "TTOU", "URG",
    "XCPU", "XFSZ", "VTALRM", "PROF", "WINCH", "IO", "PWR", "SYS"]

def signalName? (signal : Nat) : Option String :=
  if signal = 0 then none else signalNames[signal - 1]?

/-- Decodes the sixteen bits that the system reports for a process. -/
def ofWait (wait : Nat) : ExitStatus :=
  let low := wait % 128
  let high := wait / 256 % 256
  if low = 0 then exited high
  else if low ≠ 127 then signalled low (wait / 128 % 2 = 1)
  else if wait % 256 = 127 then stopped high
  else if wait = 0xFFFF then continued
  else unrecognised wait

def isSuccess (s : ExitStatus) : Bool := s == exited 0

/-- The number that stands for it in a shell. -/
def code : ExitStatus → Nat
  | exited code => code
  | signalled signal _ => 128 + signal
  | _ => 0

def signalText (signal : Nat) : Text :=
  Text.decimal signal ++ match signalName? signal with
    | some name => " (SIG".toList ++ name.toList ++ [')']
    | none => []

def message : ExitStatus → Text
  | exited code => "exit status: ".toList ++ Text.decimal code
  | signalled signal coreDumped =>
    "signal: ".toList ++ signalText signal ++
      if coreDumped then " (core dumped)".toList else []
  | stopped signal => "stopped (not terminated) by signal: ".toList ++ signalText signal
  | continued => "continued (WIFCONTINUED)".toList
  | unrecognised wait =>
    "unrecognised wait status: ".toList ++ Text.decimal wait ++ " 0x".toList ++ Nat.toDigits 16 wait

end ExitStatus
end ErasedBridges
