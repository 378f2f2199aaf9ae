import ErasedBridges.Config.Basic
import ErasedBridges.Host.Program
import ErasedBridges.Run.Patcher
import ErasedBridges.Text.Lines

/-!
# A toolchain of commands

Classes are converted by the configured commands. In between their texts are files in a scratch
directory, which are removed as soon as they are read.
-/

namespace ErasedBridges

structure External where
  /-- Where the commands run. -/
  cwd : Path
  classes : Path
  scratch : Path
  /-- Whether the scratch directory is for this toolchain alone. -/
  ownsScratch : Bool
  commands : ToolCommands
deriving DecidableEq, Repr

namespace External

def create (config : Config) (cwd : Path) : HostJob JobError External := do
  match config.paths.scratch with
  | some dir =>
    HostJob.request (.os dir) (.makeDirectories dir)
    return ⟨cwd, config.paths.classes, dir, false, config.tools⟩
  | none =>
    let dir ← HostJob.request (.os "/tmp".toList) .makeTemporary
    return ⟨cwd, config.paths.classes, dir, true, config.tools⟩

/-- Removes the scratch directory, if nothing else uses it. -/
def close (t : External) : HostProgram Unit :=
  if t.ownsScratch then .request (.removeTemporary t.scratch) else pure ()

def classFile (t : External) (className : Text) : Path :=
  Path.join t.classes (className ++ ".class".toList)

def textFile (t : External) (name : Text) : Path := Path.join t.scratch (name ++ ".j".toList)

def values (t : External) (className : Text) : CommandTemplate.Values :=
  [("classes".toList, t.classes), ("scratch".toList, t.scratch), ("class".toList, className),
    ("class_file".toList, t.classFile className), ("asm_file".toList, t.textFile className)]

def template (t : External) : ToolStep → CommandTemplate
  | .disassemble => t.commands.disassemble
  | .assemble => t.commands.assemble

/-- Runs the command of a step, and answers what it wrote to its standard output. -/
def convert (t : External) (step : ToolStep) (className : Text) : HostJob RunError Text := do
  let template := t.template step
  match CommandTemplate.render template t.cwd (t.values className) with
  | .error fault => throw (.template template fault)
  | .ok command =>
    let result ← HostJob.runChecked command (.withTimeout t.commands.timeout?)
    return result.output.stdout

def convertFor (t : External) (step : ToolStep) (className : Text) : HostJob JobError Text :=
  (t.convert step className).adapt (.command step className)

def makeParent (path : Path) : HostJob JobError Unit :=
  match Path.parent? path with
  | some dir => HostJob.request (.os dir) (.makeDirectories dir)
  | none => pure ()

def firstFile? : List Path → HostProgram (Option Path)
  | [] => return none
  | path :: paths => do
    if ← .request (.isFile path) then return some path else firstFile? paths

/-- Some commands leave out the directories of the package, so the text is also looked for at the
top of the scratch directory. -/
def disassemble (t : External) (className : Text) : HostJob JobError Text := do
  let classFile := t.classFile className
  unless ← ExceptT.lift (.request (.isFile classFile)) do
    throw (.missingClass className classFile)
  let file := t.textFile className
  makeParent file
  let _ ← t.convertFor .disassemble className
  match ← ExceptT.lift (firstFile? [file, t.textFile (Path.lastComponent className)]) with
  | none => throw (.missingOutput className t.scratch)
  | some file =>
    let text ← HostJob.readText (.os file) file
    HostJob.request (.os file) (.removeFile file)
    return text

def written (stdout : Text) : List Path :=
  (Text.lines stdout).filterMap fun line =>
    "Class written to ".toList.isPrefixOf? (Text.trim line)

/-- A command that names no files is taken to have written the file of the class. -/
def assemble (t : External) (className text : Text) : HostJob JobError (List Path) := do
  let file := t.textFile className
  makeParent file
  HostJob.request (.os file) (.writeFile file (Text.encode text))
  let result ← ExceptT.lift (t.convertFor .assemble className).run
  let _ ← ExceptT.lift (.request (.removeFile file))
  match result with
  | .error e => throw e
  | .ok stdout =>
    let paths := written stdout
    return if paths.isEmpty then [t.classFile className] else paths

end External

namespace Plan

def onHost (t : External) {α : Type} : Plan α → HostJob JobError α
  | done a => pure a
  | failed e => throw e
  | disassemble className next => do
    let text ← t.disassemble className
    (next text).onHost t
  | assemble className text next => do
    let paths ← t.assemble className text
    (next paths).onHost t
  | readSource path next => do
    let text ← HostJob.readText (.os path) path
    (next text).onHost t

end Plan
end ErasedBridges
