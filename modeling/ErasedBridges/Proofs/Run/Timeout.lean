import ErasedBridges.Proofs.Run.Freshness

/-!
# Runs within their timeout

A command that runs out of time makes its step fail, and one that ends before does what it would do
without a timeout. So a timeout can only make a run fail: what a run that succeeds does to the files
and answers is the same without it.
-/

namespace ErasedBridges

/-- A command that ends within its timeout does the same without one. -/
def CommandRunner.IsPatient (run : CommandRunner) : Prop :=
  ∀ (command : CommandSpec) (limits : RunLimits) (tree after : FileTree) (result : CommandResult),
    run command limits tree = (.ok result, after) → result.timedOut = false →
      run command { limits with timeout := none } tree = (.ok result, after)

theorem CommandResult.timedOut_of_check {result : CommandResult} {command : CommandSpec}
    (h : result.check command = .ok result) : result.timedOut = false := by
  rw [check] at h
  split at h
  · cases h
  · next hended =>
    rw [Bool.or_eq_true, not_or, Bool.not_eq_true] at hended
    exact hended.1

theorem CommandRunner.IsPatient.withTimeout {run : CommandRunner} (hrun : run.IsPatient)
    {command : CommandSpec} {timeout : Option Nat} {tree after : FileTree} {result : CommandResult}
    (h : run command (.withTimeout timeout) tree = (.ok result, after))
    (hcheck : result.check command = .ok result) :
    run command (.withTimeout none) tree = (.ok result, after) := by
  have hended := hrun _ _ _ _ _ h (CommandResult.timedOut_of_check hcheck)
  exact hended

namespace External

open HostJob

variable {t : External} {className text : Text} {run : CommandRunner} {tree tree' : FileTree}

/-- The same commands, which may take any time. -/
def withoutTimeout (t : External) : External :=
  { t with commands := { t.commands with timeoutMs := 0 } }

theorem template_withoutTimeout (t : External) (step : ToolStep) :
    t.withoutTimeout.template step = t.template step := by
  cases step with
  | disassemble => rfl
  | assemble => rfl

/-! ### Steps -/

theorem convertFor_withoutTimeout (hrun : run.IsPatient) {step : ToolStep} {stdout : Text}
    (h : onTree run (t.convertFor step className) tree = (.ok stdout, tree')) :
    onTree run (t.withoutTimeout.convertFor step className) tree = (.ok stdout, tree') := by
  obtain ⟨command, result, hcommand, hresult, hcheck, hstdout⟩ :=
    convert_eq_ok.1 (convertFor_eq_ok.1 h)
  refine convertFor_eq_ok.2 (convert_eq_ok.2 ⟨command, result, ?_, ?_, hcheck, hstdout⟩)
  · rw [template_withoutTimeout]
    exact hcommand
  · exact hrun.withTimeout hresult hcheck

theorem disassemble_withoutTimeout (hrun : run.IsPatient)
    (h : onTree run (t.disassemble className) tree = (.ok text, tree')) :
    onTree run (t.withoutTimeout.disassemble className) tree = (.ok text, tree') := by
  obtain ⟨started, command, after, hstarts, ⟨result, hresult, hcheck⟩, hreceive⟩ :=
    disassemble_eq_ok.1 h
  exact disassemble_eq_ok.2 ⟨started, command, after,
    ⟨hstarts.classFile, hstarts.parent, hstarts.command⟩,
    ⟨result, hrun.withTimeout hresult hcheck, hcheck⟩, hreceive⟩

theorem assemble_withoutTimeout (hrun : run.IsPatient) {paths : List Path}
    (h : onTree run (t.assemble className text) tree = (.ok paths, tree')) :
    onTree run (t.withoutTimeout.assemble className text) tree = (.ok paths, tree') := by
  obtain ⟨⟨⟩, started, hparent, h⟩ := onTree_bind_eq_ok.1 h
  obtain ⟨⟨⟩, written, hwrite, h⟩ := onTree_bind_eq_ok.1 h
  obtain ⟨result, after, hconvert, h⟩ := onTree_bind_eq_ok.1 h
  obtain ⟨removed, left, hremove, h⟩ := onTree_bind_eq_ok.1 h
  -- The text is removed before a failure of the command is looked at.
  cases result with
  | error e => cases h
  | ok stdout =>
    rw [onTree_lift] at hconvert
    obtain ⟨hstdout, hafter⟩ := Prod.mk.inj hconvert
    have hstep : onTree run (t.convertFor .assemble className) written = (.ok stdout, after) :=
      Prod.ext (Except.ok.inj hstdout) hafter
    have hstep' := convertFor_withoutTimeout hrun hstep
    refine onTree_bind_eq_ok.2 ⟨(), started, hparent, ?_⟩
    refine onTree_bind_eq_ok.2 ⟨(), written, hwrite, ?_⟩
    refine onTree_bind_eq_ok.2 ⟨.ok stdout, after, ?_, ?_⟩
    · rw [onTree_lift]
      exact congrArg (fun r => (Except.ok r.1, r.2)) hstep'
    · exact onTree_bind_eq_ok.2 ⟨removed, left, hremove, h⟩

end External

/-! ### Runs -/

/-- Whatever a plan asks for: if it succeeds, then without a timeout it has the same answer and
leaves the same files. -/
theorem Plan.onHost_withoutTimeout {α : Type} {run : CommandRunner} (hrun : run.IsPatient)
    {t : External} {plan : Plan α} {tree tree' : FileTree} {a : α}
    (h : HostJob.onTree run (plan.onHost t) tree = (.ok a, tree')) :
    HostJob.onTree run (plan.onHost t.withoutTimeout) tree = (.ok a, tree') := by
  induction plan generalizing tree with
  | done b => exact h
  | failed e => cases h
  | disassemble className next ih =>
    obtain ⟨text, between, htext, hnext⟩ := HostJob.onTree_bind_eq_ok.1 h
    exact HostJob.onTree_bind_eq_ok.2
      ⟨text, between, External.disassemble_withoutTimeout hrun htext, ih text hnext⟩
  | assemble className text next ih =>
    obtain ⟨paths, between, hpaths, hnext⟩ := HostJob.onTree_bind_eq_ok.1 h
    exact HostJob.onTree_bind_eq_ok.2
      ⟨paths, between, External.assemble_withoutTimeout hrun hpaths, ih paths hnext⟩
  | readSource path next ih =>
    obtain ⟨text, between, htext, hnext⟩ := HostJob.onTree_bind_eq_ok.1 h
    exact HostJob.onTree_bind_eq_ok.2 ⟨text, between, htext, ih text hnext⟩

end ErasedBridges
