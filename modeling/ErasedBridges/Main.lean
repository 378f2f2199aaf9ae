import ErasedBridges.CommandLine.Execute

/-!
# The command line

Carries out the arguments on the files of the system. Processes are not started: a command fails
as one that the system does not know.
-/

namespace ErasedBridges

def osErrorOf (e : IO.Error) : OsError :=
  match e with
  | .noFileOrDirectory .. => .notFound
  | .permissionDenied .. => .permissionDenied
  | .alreadyExists .. => .alreadyExists
  | .inappropriateType _ 20 _ => .notADirectory
  | .inappropriateType .. => .isADirectory
  | e => .other (toString e).toList 5

def attempt {α : Type} (action : IO α) : IO (Except OsError α) := do
  try
    return .ok (← action)
  catch e => return .error (osErrorOf e)

/-- Whether at least the first byte can be read, as it can not be of a directory. -/
def canRead (path : Path) : IO Bool := do
  let opened ← attempt do
    let handle ← IO.FS.Handle.mk (String.ofList path) .read
    handle.read 1
  return opened.toOption.isSome

namespace HostRequest

def perform {α : Type} (r : HostRequest α) : IO α :=
  match r with
  | isFile path => canRead path
  | readFile path => attempt do
    return (← IO.FS.readBinFile (String.ofList path)).toList
  | writeFile path content => attempt do
    IO.FS.writeBinFile (String.ofList path) (ByteArray.mk content.toArray)
  | removeFile path => attempt do IO.FS.removeFile (String.ofList path)
  | makeDirectories path => attempt do
    unless path.isEmpty do IO.FS.createDirAll (String.ofList path)
  | makeTemporary => attempt do
    return (toString (← IO.FS.createTempDir)).toList
  | removeTemporary path => do
    let _ ← attempt (IO.FS.removeDirAll (String.ofList path))
  | runCommand .. => return .error (.other "Function not implemented".toList 38)

end HostRequest

namespace HostProgram

def perform {α : Type} : HostProgram α → IO α
  | done a => return a
  | ask r next => do
    let answer ← r.perform
    (next answer).perform

end HostProgram
end ErasedBridges

def main (args : List String) : IO UInt32 := do
  let environment ← IO.getEnv "OPTBRIDGE_CONFIG"
  let program := ErasedBridges.CommandLine.perform (args.map String.toList)
    (environment.map String.toList)
  let outcome ← program.perform
  IO.print (String.ofList outcome.standardOutput)
  IO.eprint (String.ofList outcome.standardError)
  return UInt32.ofNat outcome.exitCode
