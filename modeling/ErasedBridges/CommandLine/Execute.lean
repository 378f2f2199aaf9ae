import ErasedBridges.CommandLine.Help
import ErasedBridges.Config.Load
import ErasedBridges.Report.Patch
import ErasedBridges.Run.External

/-!
# Carrying out the command line
-/

namespace ErasedBridges.CommandLine

inductive Outcome where
  | departed (departure : Departure)
  | succeeded (output : Text)
  | failed (message : Text)
deriving DecidableEq, Repr

/-- A failure: what could not be done, and its causes in turn. -/
abbrev Messages := List Text

def messageOf (messages : Messages) : Text := Text.join ": ".toList messages

def about (what : String) (path : Path) (causes : Messages) : Messages :=
  (what.toList ++ ' ' :: path) :: causes

def configMessages (e : ConfigError) : Messages := e.message :: e.cause?.toList

def loadConfig (i : Invocation) (environment : Option Path) : HostJob Messages Config :=
  match i.config with
  | some path => do
    let config ← (Config.load path).adapt fun e => about "failed to load" path (configMessages e)
    return config.resolvePaths i.root
  | none => do
    let (config, _) ← (Config.loadFor i.root environment).adapt configMessages
    return config

def readClass (path : Path) : HostJob Messages ClassFile := do
  let text ← HostJob.readText (fun e => about "failed to read" path [e.message]) path
  match ClassFile.read text with
  | .ok c => return c
  | .error e => throw (about "failed to parse" path [e.message])

def readCatalog (layout : Layout) (paths : List Path) : HostJob Messages Catalog := do
  let classes ← paths.mapM readClass
  match Catalog.collect layout classes with
  | .ok catalog => return catalog
  | .error e => throw [e.message]

def patched (path : Path) (r : Except PatchError ClassFile) : HostJob Messages ClassFile :=
  match r with
  | .ok c => return c
  | .error e => throw (about "failed to patch" path [e.message])

def deliver (output : Option Path) (text : Text) : HostJob Messages Text :=
  match output with
  | some path => do
    HostJob.request (fun e => about "failed to write" path [e.message])
      (.writeFile path (Text.encode text))
    return []
  | none => return text

def shown (json : Bool) (listing : Text) (value : Json) : Text :=
  (if json then value.indented 0 else listing) ++ ['\n']

def patchLibrary (config : Config) (root : Path) : HostJob JobError PatchReport := do
  let tools ← External.create config root
  let result ← ExceptT.lift
    ((Plan.patchLibrary config.library config.paths.sources).onHost tools).run
  ExceptT.lift tools.close
  ExceptT.mk (.done result)

def execute (i : Invocation) (environment : Option Path) : HostJob Messages Text := do
  let config ← loadConfig i environment
  let layout := config.library
  match i.command with
  | .run json =>
    let report ← (patchLibrary config i.root).adapt fun e => e.message :: e.causes
    return shown json report.listing report.toJson
  | .eliminateCast input method output =>
    let c ← readClass input
    let c ← patched input (c.eliminateCast (method.getD layout.castMethod))
    deliver output c.printed
  | .catalog interfaces json =>
    let catalog ← readCatalog layout interfaces
    return shown json catalog.listing catalog.toJson
  | .patchEmpty input interfaces line output =>
    let catalog ← readCatalog layout interfaces
    let bridges ← ExceptT.mk (.done ((catalog.synthesize ⟨layout, line⟩).mapError fun e =>
      [e.message]))
    let c ← readClass input
    let c ← patched input (c.patchEmpty layout (bridges.map Bridge.method))
    deliver output c.printed

/-- Carries out the arguments. `environment` is the configuration file that the environment
names. -/
def perform (args : List Text) (environment : Option Path) : HostProgram Outcome :=
  match parse args with
  | .error departure => return .departed departure
  | .ok i => do
    match ← (execute i environment).run with
    | .ok output => return .succeeded output
    | .error messages => return .failed (messageOf messages)

def versionText : Text := programName ++ " 0.1.0\n".toList

namespace Outcome

def exitCode : Outcome → Nat
  | departed .usage => 2
  | departed _ => 0
  | succeeded _ => 0
  | failed _ => 2

def standardOutput : Outcome → Text
  | departed (.help command) => helpText command
  | departed .version => versionText
  | succeeded output => output
  | _ => []

def standardError : Outcome → Text
  | departed .usage => helpText none
  | failed message => message ++ ['\n']
  | _ => []

end Outcome
end ErasedBridges.CommandLine
