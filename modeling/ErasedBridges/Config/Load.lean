import ErasedBridges.Config.Decode
import ErasedBridges.Host.Program

/-!
# Finding and loading a configuration
-/

namespace ErasedBridges.Config

def fileName : Path := "optbridge.toml".toList

/-- The file that the environment names, or the one in `root` if there is one. -/
def discover (root : Path) (environment : Option Path) : HostProgram (Option Path) :=
  match environment.filter (!·.isEmpty) with
  | some path => return some (Path.resolve root path)
  | none => do
    let candidate := Path.join root fileName
    return if ← .request (.isFile candidate) then some candidate else none

def load (path : Path) : HostJob ConfigError Config := do
  let text ← HostJob.readText (.unreadable path) path
  ExceptT.mk (.done (parse text))

/-- The configuration of a project, with its paths resolved, and the file it is from. Without a
file it is the default. -/
def loadFor (root : Path) (environment : Option Path) :
    HostJob ConfigError (Config × Option Path) := do
  let path ← ExceptT.lift (discover root environment)
  let config ← match path with
    | some path => load path
    | none => pure default
  return (config.resolvePaths root, path)

end ErasedBridges.Config
