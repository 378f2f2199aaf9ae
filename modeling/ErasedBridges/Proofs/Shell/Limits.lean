import ErasedBridges.Proofs.Command.Capture
import ErasedBridges.Proofs.Run.Timeout
import ErasedBridges.Shell.Runner

/-!
# What the limits on a command change

Of the limits only the deadline reaches into a command. How many bytes of its output are kept
changes nothing else, a timeout that it keeps changes nothing at all, and a command that cannot be
started leaves the files as they are.
-/

namespace ErasedBridges.Shell

variable {command : CommandSpec} {limits : RunLimits} {tree tree' : FileTree}
  {result : CommandResult}

/-- All that was written to a stream. -/
def written (m : Machine) (id : Nat) : Bytes := (m.stream id).pieces.flatten

/-- What is kept of the streams. -/
def kept (maxBytes : Nat) (m : Machine) : Output where
  stdout := Text.decodeLossy ((written m standardOutput).take maxBytes)
  stderr := Text.decodeLossy ((written m standardError).take maxBytes)
  truncated := decide (maxBytes < (written m standardOutput).length ∨
    maxBytes < (written m standardError).length)

theorem ofReads_reads (maxBytes : Nat) (m : Machine) :
    Output.ofReads maxBytes (reads m standardOutput) (reads m standardError) =
      .ok (kept maxBytes m) :=
  Output.ofReads_of_splits (splits_bufferfuls _) (splits_bufferfuls _) maxBytes [] []

/-- The machine that a command leaves, and how the command ended. -/
def ending (command : CommandSpec) (limits : RunLimits) (tree : FileTree) (dir : List Text)
    (program : Program) : ExitStatus × Machine :=
  simulateWithin program (spelled command.program) (command.args.map spelled) limits
    (renamed spelled { tree with current := dir })

/-- A command that runs ends with some output, whatever it does. -/
theorem runCommand_eq_ok :
    runCommand command limits tree = (.ok result, tree') ↔
      ∃ dir program status m, locate command tree = .ok (dir, program) ∧
        ending command limits tree dir program = (status, m) ∧
        result = ⟨status, kept limits.maxBytes m, isOverdue m⟩ ∧
        tree' = { renamed unspelled m.tree with current := tree.current } := by
  rw [runCommand]
  cases hlocate : locate command tree with
  | error e => exact ⟨nofun, by rintro ⟨_, _, _, _, ⟨⟩, _⟩⟩
  | ok found =>
    obtain ⟨dir, program⟩ := found
    dsimp only
    rw [ofReads_reads]
    constructor
    · intro h
      obtain ⟨hresult, htree⟩ := Prod.mk.inj h
      exact ⟨dir, program, _, _, rfl, rfl, (Except.ok.inj hresult).symm, htree.symm⟩
    · rintro ⟨_, _, status, m, ⟨⟩, hending, rfl, rfl⟩
      rw [ending] at hending
      rw [hending]
      rfl

/-- A command that cannot be started changes nothing. -/
theorem runCommand_eq_error {e : OsError} :
    runCommand command limits tree = (.error e, tree') ↔
      locate command tree = .error e ∧ tree' = tree := by
  rw [runCommand]
  cases hlocate : locate command tree with
  | error e' =>
    dsimp only
    rw [Prod.mk.injEq, Except.error.injEq, Except.error.injEq, eq_comm (a := tree)]
  | ok found =>
    dsimp only
    rw [ofReads_reads]
    exact ⟨nofun, nofun⟩

/-- There are two streams of which every limit keeps the start. Nothing else depends on it. -/
theorem exists_streams_of_runCommand
    (h : runCommand command limits tree = (.ok result, tree')) :
    ∃ out err : Bytes, ∀ maxBytes,
      runCommand command { limits with maxBytes } tree =
        (.ok { result with output :=
          ⟨Text.decodeLossy (out.take maxBytes), Text.decodeLossy (err.take maxBytes),
            decide (maxBytes < out.length ∨ maxBytes < err.length)⟩ }, tree') := by
  obtain ⟨dir, program, status, m, hlocate, hending, rfl, htree⟩ := runCommand_eq_ok.1 h
  exact ⟨written m standardOutput, written m standardError, fun maxBytes =>
    runCommand_eq_ok.2 ⟨dir, program, status, m, hlocate, hending, rfl, htree⟩⟩

theorem isPatient_runCommand : CommandRunner.IsPatient runCommand := by
  intro command limits tree after result h hended
  obtain ⟨dir, program, status, m, hlocate, hending, rfl, htree⟩ := runCommand_eq_ok.1 h
  refine runCommand_eq_ok.2 ⟨dir, program, status, m, hlocate, ?_, rfl, htree⟩
  -- What is not overdue was run without a deadline already.
  rw [ending, simulateWithin] at hending ⊢
  dsimp only at hending ⊢
  split at hending
  · next hoverdue =>
    rw [hending] at hoverdue
    exact absurd hended (by simp [hoverdue])
  · rw [Option.map_none, ite_self]
    exact hending

/-- A library that is patched within the timeout is patched the same without one. -/
theorem patchLibrary_withoutTimeout {t : External} {l : Layout} {sources : Path}
    {report : PatchReport}
    (h : HostJob.onTree runCommand ((Plan.patchLibrary l sources).onHost t) tree =
      (.ok report, tree')) :
    HostJob.onTree runCommand ((Plan.patchLibrary l sources).onHost t.withoutTimeout) tree =
      (.ok report, tree') :=
  Plan.onHost_withoutTimeout isPatient_runCommand h

/-- Texts and compiled classes are copies of one another, made in a second at most. -/
def copyTool : External where
  cwd := ['/']
  classes := "/c".toList
  scratch := "/s".toList
  ownsScratch := false
  commands := {
    disassemble := ["cp".toList, "{class_file}".toList, "{asm_file}".toList]
    assemble := ["cp".toList, "{asm_file}".toList, "{class_file}".toList]
    timeoutMs := 1000 }

def copyTree : FileTree where
  entries := [([['c'], "A.class".toList], .file (Text.encode ".class A".toList)),
    ([['s']], .directory), ([['c']], .directory)]
  current := []

example : HostJob.onTree runCommand (copyTool.disassemble ['A']) copyTree =
    (.ok ".class A".toList, copyTree) := by
  decide +kernel

end ErasedBridges.Shell
