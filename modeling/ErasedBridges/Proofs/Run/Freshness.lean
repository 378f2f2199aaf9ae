import ErasedBridges.Proofs.Host.Program
import ErasedBridges.Run.External

/-!
# Whether a disassembly is fresh

A disassembly hands out what the first of its output files holds once the command is over, and the
command may do anything to the files. So the text is what this command wrote, whatever it does,
exactly if none of the output files is there when the command starts.
-/

namespace ErasedBridges

namespace External

open HostJob

variable {t : External} {className : Text} {command : CommandSpec} {run : CommandRunner}
  {tree tree' started after : FileTree}

/-! ### Disassembly in steps -/

def outputs (t : External) (className : Text) : List Path :=
  [t.textFile className, t.textFile (Path.lastComponent className)]

/-- What is left to do once the command has succeeded. -/
def receive (t : External) (className : Text) : HostJob JobError Text := do
  match ← ExceptT.lift (firstFile? (t.outputs className)) with
  | none => throw (.missingOutput className t.scratch)
  | some file =>
    let text ← HostJob.readText (.os file) file
    HostJob.request (.os file) (.removeFile file)
    return text

theorem onTree_disassemble : onTree run (t.disassemble className) tree =
    if tree.isFile (t.classFile className) then
      onTree run (do
        makeParent (t.textFile className)
        let _ ← t.convertFor .disassemble className
        t.receive className) tree
    else (.error (.missingClass className (t.classFile className)), tree) := by
  rw [disassemble, onTree_bind_of_ok (onTree_lift _)]
  change onTree run (if tree.isFile (t.classFile className) = true then _ else _) tree = _
  split
  · rfl
  · rfl

/-- The command for a class is reached, and finds the files as they are in `started`. -/
structure Starts (t : External) (className : Text) (tree started : FileTree)
    (command : CommandSpec) : Prop where
  classFile : tree.isFile (t.classFile className) = true
  parent : (Path.parent? (t.textFile className)).elim (.ok tree) tree.makeDirectories = .ok started
  command : t.commands.disassemble.render t.cwd (t.values className) = .ok command

/-- The command succeeds and leaves the files as they are in `after`. -/
def Succeeds (run : CommandRunner) (t : External) (command : CommandSpec)
    (started after : FileTree) : Prop :=
  ∃ result, run command (.withTimeout t.commands.timeout?) started = (.ok result, after) ∧
    result.check command = .ok result

theorem firstFile?_onTree (paths : List Path) :
    (firstFile? paths).onTree run tree = (paths.find? tree.isFile, tree) := by
  induction paths with
  | nil => rfl
  | cons path paths ih =>
    rw [firstFile?, HostProgram.onTree_bind, List.find?_cons]
    change HostProgram.onTree run (if tree.isFile path then _ else _) tree = _
    cases tree.isFile path with
    | true => rfl
    | false => exact ih

theorem makeParent_eq_ok {path : Path} : onTree run (makeParent path) tree = (.ok (), started) ↔
    (Path.parent? path).elim (.ok tree) tree.makeDirectories = .ok started := by
  rw [makeParent]
  cases Path.parent? path with
  | none =>
    exact ⟨fun h => congrArg Except.ok (Prod.mk.inj h).2, fun h => by cases h; rfl⟩
  | some dir => exact onTree_request_eq_ok.trans FileTree.attempt_eq_ok

theorem runChecked_eq_ok {limits : RunLimits} {result : CommandResult} :
    onTree run (runChecked command limits) started = (.ok result, after) ↔
      run command limits started = (.ok result, after) ∧ result.check command = .ok result := by
  rw [runChecked, onTree_bind_eq_ok]
  simp only [onTree_request_eq_ok]
  constructor
  · rintro ⟨result', between, hrun, hend⟩
    obtain ⟨hcheck, rfl⟩ : result'.check command = .ok result ∧ between = after :=
      Prod.mk.inj hend
    obtain rfl : result' = result := by
      rw [CommandResult.check] at hcheck
      split at hcheck
      · cases hcheck
      · exact Except.ok.inj hcheck
    exact ⟨hrun, hcheck⟩
  · rintro ⟨hrun, hcheck⟩
    exact ⟨result, after, hrun, congrArg (·, after) hcheck⟩

/-- A step is over once its command has been run and has not failed. -/
theorem convert_eq_ok {step : ToolStep} {stdout : Text} :
    onTree run (t.convert step className) started = (.ok stdout, after) ↔
      ∃ command result, (t.template step).render t.cwd (t.values className) = .ok command ∧
        run command (.withTimeout t.commands.timeout?) started = (.ok result, after) ∧
        result.check command = .ok result ∧ stdout = result.output.stdout := by
  unfold convert
  dsimp only
  cases (t.template step).render t.cwd (t.values className) with
  | error fault => exact ⟨by rintro ⟨_, ⟨⟩⟩, by rintro ⟨_, _, ⟨⟩, _⟩⟩
  | ok command =>
    simp only [onTree_bind_eq_ok, runChecked_eq_ok]
    constructor
    · rintro ⟨result, between, ⟨hrun, hcheck⟩, hend⟩
      obtain ⟨hstdout, rfl⟩ := Prod.mk.inj hend
      exact ⟨command, result, rfl, hrun, hcheck, (Except.ok.inj hstdout).symm⟩
    · rintro ⟨_, result, ⟨⟩, hrun, hcheck, rfl⟩
      exact ⟨result, after, ⟨hrun, hcheck⟩, rfl⟩

theorem convertFor_eq_ok {step : ToolStep} {stdout : Text} :
    onTree run (t.convertFor step className) started = (.ok stdout, after) ↔
      onTree run (t.convert step className) started = (.ok stdout, after) := by
  rw [convertFor, onTree_adapt]
  exact mapError_eq_ok

theorem disassemble_of_succeeds (hstarts : t.Starts className tree started command)
    (hsucceeds : t.Succeeds run command started after) :
    onTree run (t.disassemble className) tree = onTree run (t.receive className) after := by
  obtain ⟨result, hrun, hcheck⟩ := hsucceeds
  have hconvert : onTree run (t.convert .disassemble className) started =
      (.ok result.output.stdout, after) :=
    convert_eq_ok.2 ⟨command, result, hstarts.command, hrun, hcheck, rfl⟩
  rw [onTree_disassemble, if_pos hstarts.classFile,
    onTree_bind_of_ok (makeParent_eq_ok.2 hstarts.parent),
    onTree_bind_of_ok (convertFor_eq_ok.2 hconvert)]

/-- A disassembly begins with the command and ends with what it left. -/
theorem disassemble_eq_ok {text : Text} :
    onTree run (t.disassemble className) tree = (.ok text, tree') ↔
      ∃ started command after, t.Starts className tree started command ∧
        t.Succeeds run command started after ∧
        onTree run (t.receive className) after = (.ok text, tree') := by
  constructor
  · intro h
    rw [onTree_disassemble] at h
    split at h
    · next hclass =>
      obtain ⟨⟨⟩, started, hparent, h⟩ := onTree_bind_eq_ok.1 h
      obtain ⟨stdout, after, hconvert, hreceive⟩ := onTree_bind_eq_ok.1 h
      obtain ⟨command, result, hcommand, hrun, hcheck, -⟩ :=
        convert_eq_ok.1 (convertFor_eq_ok.1 hconvert)
      exact ⟨started, command, after, ⟨hclass, makeParent_eq_ok.1 hparent, hcommand⟩,
        ⟨result, hrun, hcheck⟩, hreceive⟩
    · cases h
  · rintro ⟨started, command, after, hstarts, hsucceeds, hreceive⟩
    exact (disassemble_of_succeeds hstarts hsucceeds).trans hreceive

/-! ### What is handed out -/

theorem onTree_receive : onTree run (t.receive className) after =
    match (t.outputs className).find? after.isFile with
    | none => (.error (.missingOutput className t.scratch), after)
    | some file => onTree run (do
        let text ← HostJob.readText (.os file) file
        HostJob.request (.os file) (.removeFile file)
        return text) after := by
  rw [receive, onTree_bind_of_ok (onTree_lift _), firstFile?_onTree]
  dsimp only
  cases (t.outputs className).find? after.isFile with
  | none => rfl
  | some file => rfl

theorem receive_eq_ok {text : Text} :
    onTree run (t.receive className) after = (.ok text, tree') ↔
      ∃ path content, (t.outputs className).find? after.isFile = some path ∧
        after.readFile path = .ok content ∧ Text.decode? content = some text ∧
        after.removeFile path = .ok tree' := by
  rw [onTree_receive]
  cases (t.outputs className).find? after.isFile with
  | none => exact ⟨nofun, by rintro ⟨_, _, ⟨⟩, _⟩⟩
  | some path =>
    simp only [onTree_bind_eq_ok, onTree_readText_eq_ok, onTree_request_eq_ok]
    constructor
    · rintro ⟨text', between, ⟨content, hread, hdecode, rfl⟩, _, left, hremove, hend⟩
      cases hend
      exact ⟨path, content, rfl, hread, hdecode, FileTree.attempt_eq_ok.1 hremove⟩
    · rintro ⟨_, content, ⟨⟩, hread, hdecode, hremove⟩
      exact ⟨text, after, ⟨content, hread, hdecode, rfl⟩, (), tree',
        FileTree.attempt_eq_ok.2 hremove, rfl⟩

theorem receive_eq_missingOutput :
    (onTree run (t.receive className) after).1 = .error (.missingOutput className t.scratch) ↔
      ∀ path ∈ t.outputs className, after.isFile path = false := by
  have hnone : (∀ path ∈ t.outputs className, after.isFile path = false) ↔
      (t.outputs className).find? after.isFile = none := by
    simp only [List.find?_eq_none, Bool.not_eq_true]
  rw [onTree_receive, hnone]
  cases (t.outputs className).find? after.isFile with
  | none => exact ⟨fun _ => rfl, fun _ => rfl⟩
  | some path =>
    refine ⟨fun h => ?_, nofun⟩
    -- A file that is there can only fail to be read or to be removed.
    rcases onTree_bind_eq_error h with hread | ⟨text, between, -, h⟩
    · obtain ⟨o, ho⟩ := exists_fault_of_readText hread
      cases ho
    · rcases onTree_bind_eq_error h with hremove | ⟨_, _, -, hend⟩
      · obtain ⟨o, ho⟩ := exists_fault_of_request hremove
        cases ho
      · cases hend

/-- The file has a content that it did not have before. To write again what is there is not seen
as writing. -/
def Writes (before after : FileTree) (path : Path) (content : Bytes) : Prop :=
  after.readFile path = .ok content ∧ before.readFile path ≠ .ok content

/-- The text of a disassembly was written by its command to the file that it is read from, and a
command that succeeds and writes none of the output files is reported. -/
structure Fresh (t : External) (run : CommandRunner) (className : Text) (tree : FileTree) :
    Prop where
  text : ∀ text tree', onTree run (t.disassemble className) tree = (.ok text, tree') →
    ∃ started command after path content, t.Starts className tree started command ∧
      t.Succeeds run command started after ∧
      (t.outputs className).find? after.isFile = some path ∧
      Writes started after path content ∧ Text.decode? content = some text
  missing : ∀ started command after, t.Starts className tree started command →
    t.Succeeds run command started after →
    (∀ path ∈ t.outputs className, ∀ content, ¬Writes started after path content) →
    (onTree run (t.disassemble className) tree).1 = .error (.missingOutput className t.scratch)

def idle : CommandRunner := fun _ _ tree => (.ok ⟨.exited 0, ⟨[], [], false⟩, false⟩, tree)

theorem not_writes_self {path : Path} {content : Bytes} : ¬Writes tree tree path content :=
  fun h => h.2 h.1

theorem writes_of_new {path : Path} {content : Bytes} (hbefore : started.isFile path = false)
    (hread : after.readFile path = .ok content) : Writes started after path content := by
  refine ⟨hread, fun hold => ?_⟩
  have hfile := FileTree.isFile_iff_readFile.2 ⟨content, hold⟩
  rw [hbefore] at hfile
  cases hfile

/-- Whatever its command does, a disassembly is fresh exactly if no output file is there when the
command starts. -/
theorem fresh_iff (t : External) (className : Text) (tree : FileTree) :
    (∀ run, t.Fresh run className tree) ↔
      ∀ started command, t.Starts className tree started command →
        ∀ path ∈ t.outputs className, started.isFile path = false := by
  constructor
  · intro hfresh started command hstarts
    have hsucceeds : t.Succeeds idle command started started := ⟨_, rfl, rfl⟩
    have hmissing := (hfresh idle).missing started command started hstarts hsucceeds
      fun _ _ _ => not_writes_self
    rw [disassemble_of_succeeds hstarts hsucceeds] at hmissing
    exact receive_eq_missingOutput.1 hmissing
  · intro hnone run
    constructor
    · intro text tree' h
      obtain ⟨started, command, after, hstarts, hsucceeds, hreceive⟩ := disassemble_eq_ok.1 h
      obtain ⟨path, content, hfind, hread, hdecode, -⟩ := receive_eq_ok.1 hreceive
      have hbefore := hnone started command hstarts path (List.mem_of_find?_eq_some hfind)
      exact ⟨started, command, after, path, content, hstarts, hsucceeds, hfind,
        writes_of_new hbefore hread, hdecode⟩
    · intro started command after hstarts hsucceeds hidle
      rw [disassemble_of_succeeds hstarts hsucceeds, receive_eq_missingOutput]
      intro path hpath
      rw [← Bool.not_eq_true, FileTree.isFile_iff_readFile]
      rintro ⟨content, hread⟩
      have hbefore := hnone started command hstarts path hpath
      exact hidle path hpath content (writes_of_new hbefore hread)

/-! A scratch directory `/s` for the class `A`, whose file is in `/c`. -/

def smallTool : External :=
  ⟨['/'], "/c".toList, "/s".toList, false, ⟨[['d']], [['a']], 0⟩⟩

def smallCommand : CommandSpec := ⟨['/'], ['d'], []⟩

def smallTree : FileTree :=
  ⟨[([['s']], .directory), ([['c'], "A.class".toList], .file []), ([['c']], .directory)], []⟩

theorem fresh_smallTree : ∀ run, smallTool.Fresh run ['A'] smallTree := by
  refine (fresh_iff smallTool ['A'] smallTree).2 fun started command hstarts => ?_
  have hparent : (Path.parent? (smallTool.textFile ['A'])).elim (.ok smallTree)
      smallTree.makeDirectories = .ok smallTree := by decide +kernel
  cases hstarts.parent.symm.trans hparent
  decide +kernel

def emptyOutput : Output := ⟨[], [], false⟩

/-- Writes a text and fails, and later finds nothing to do. -/
def failsOnce : CommandRunner := fun _ _ tree =>
  if tree.isFile "/s/A.j".toList then (.ok ⟨.exited 0, emptyOutput, false⟩, tree)
  else (.ok ⟨.exited 1, emptyOutput, false⟩,
    tree.put [['s'], "A.j".toList] (.file (Text.encode "old".toList)))

/-- What a command left that failed is handed out when the next one writes nothing. -/
theorem not_fresh_failsOnce : ∃ left,
    onTree failsOnce (smallTool.disassemble ['A']) smallTree =
      (.error (.command .disassemble ['A']
        (.failed ⟨smallCommand, ⟨.exited 1, emptyOutput, false⟩⟩)), left) ∧
    smallTool.Starts ['A'] left left smallCommand ∧
    smallTool.Succeeds failsOnce smallCommand left left ∧
    (onTree failsOnce (smallTool.disassemble ['A']) left).1 = .ok "old".toList ∧
    ¬smallTool.Fresh failsOnce ['A'] left := by
  let left := smallTree.put [['s'], "A.j".toList] (.file (Text.encode "old".toList))
  have hstarts : smallTool.Starts ['A'] left left smallCommand :=
    ⟨by decide +kernel, by decide +kernel, by decide +kernel⟩
  have hsucceeds : smallTool.Succeeds failsOnce smallCommand left left :=
    ⟨⟨.exited 0, emptyOutput, false⟩, by decide +kernel, by decide +kernel⟩
  have hold : (onTree failsOnce (smallTool.disassemble ['A']) left).1 = .ok "old".toList := by
    decide +kernel
  refine ⟨left, by decide +kernel, hstarts, hsucceeds, hold, fun h => ?_⟩
  have hmissing := h.missing left smallCommand left hstarts hsucceeds fun _ _ _ => not_writes_self
  rw [hold] at hmissing
  cases hmissing

end External

end ErasedBridges
