/-!
# Limits on a command
-/

namespace ErasedBridges

/-- Times are in milliseconds. -/
structure RunLimits where
  /-- When the command and all that it started are asked to end. -/
  timeout : Option Nat
  /-- Bytes kept of each stream. -/
  maxBytes : Nat
  /-- How long they have for it before they are ended. -/
  grace : Nat
deriving DecidableEq, Repr

namespace RunLimits

def default : RunLimits := ⟨none, 1024 * 1024, 250⟩

def withTimeout (timeout : Option Nat) : RunLimits := { default with timeout }

end RunLimits
end ErasedBridges
