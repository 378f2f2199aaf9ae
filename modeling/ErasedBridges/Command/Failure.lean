import ErasedBridges.Command.Output
import ErasedBridges.Command.Status
import ErasedBridges.Command.Template
import ErasedBridges.Host.OsError

/-!
# Why a command failed
-/

namespace ErasedBridges

structure CommandResult where
  status : ExitStatus
  output : Output
  timedOut : Bool
deriving DecidableEq, Repr

structure CommandFailure where
  command : CommandSpec
  result : CommandResult
deriving DecidableEq, Repr

namespace CommandFailure

/-- The output follows on lines of its own, without blanks at its end. -/
def message (f : CommandFailure) : Text :=
  let ending :=
    if f.result.timedOut then " timed out".toList
    else " exited with ".toList ++ f.result.status.message
  let truncation := if f.result.output.truncated then " (output truncated)".toList else []
  let output := Text.trimEnd f.result.output.combined
  "`".toList ++ f.command.shown ++ "`".toList ++ ending ++ truncation ++
    if output.isEmpty then [] else '\n' :: output

end CommandFailure

inductive RunError where
  | template (template : CommandTemplate) (fault : TemplateFault)
  | os (command : CommandSpec) (error : OsError)
  | failed (failure : CommandFailure)
deriving DecidableEq, Repr

namespace RunError

def message : RunError → Text
  | template t fault =>
    "invalid command template `".toList ++ Text.join [' '] t ++ "`: ".toList ++ fault.message
  | os command e => "failed to run `".toList ++ command.shown ++ "`: ".toList ++ e.message
  | failed f => f.message

def cause? : RunError → Option Text
  | template .. => none
  | os _ e => some e.message
  | failed f => some f.message

end RunError

namespace CommandResult

/-- A command that ran out of time or did not exit with zero has failed. -/
def check (command : CommandSpec) (r : CommandResult) : Except RunError CommandResult :=
  if r.timedOut || !r.status.isSuccess then .error (.failed ⟨command, r⟩) else .ok r

end CommandResult
end ErasedBridges
