import ErasedBridges.Shell.Builtin.Variables

/-!
# Builtin commands that say what is run next, and where
-/

namespace ErasedBridges.Shell

open Running

/-- A function or a file is left where it says so, which is not a failure. -/
def returned : Except Stop Unit → Except Stop Unit
  | .error .returned => .ok ()
  | result => result

def leaveLoops (stop : Nat → Stop) : Builtin := fun c => do
  let n ← c.number 1
  if n = 0 then refuse ("Illegal number: ".toList ++ c.args.headD [])
  let loops := (← process).loops
  setStatus 0
  if loops = 0 then return 0 else throw (stop (min n loops))

/-- Ends the shell; in what is set for a signal or the end, with the status from before. -/
def exit : Builtin := fun c => do
  let p ← process
  endWith (.exited ((← c.number (p.trapStatus.getD p.status)) % 256))

def returnCommand : Builtin := fun c => do
  let n ← c.number (← process).status
  setStatus n
  throw .returned

def eval : Builtin := fun c => do
  setStatus 0
  c.runHere (Text.join [' '] c.args)
  return (← process).status

/-- The path of a file with a script, which is looked for where programs are unless it has a
slash. -/
def sourcePath (name : Text) : Running Path := do
  if name.elem '/' then return name
  let p ← process
  let t := (← machine).tree
  let dirs := Text.split (· == ':') ((p.bindings.value? "PATH".toList).getD [])
  let paths := dirs.map fun dir => if dir.isEmpty then name else Path.join dir name
  match paths.find? t.isFile with
  | some path => return path
  | none => refuse (name ++ ": not found".toList)

def source : Builtin := fun c => do
  let (_, args) ← c.options "" ""
  match args with
  | [] => return 0
  | name :: _ =>
    let path ← sourcePath name
    match ← openPath .input path with
    | .error e => refuse (openFault false path e)
    | .ok number =>
      let text := ((← machine).rest number).toOption.getD []
      setStatus 0
      modifyProcess ({ · with command := some path })
      let run : Running Unit := fun s =>
        let (result, s) := (c.runText (ofBytes text)).run s
        (returned result, s)
      run
      return (← process).status

def currentText : Running Text := return '/' :: Text.join ['/'] (← machine).tree.current

def cd : Builtin := fun c => do
  let (_, args) ← c.options "LP" ""
  let vs := (← process).bindings
  let (dir, shows) := match args with
    | [] => ((vs.value? "HOME".toList).getD [], false)
    | ['-'] :: _ => ((vs.value? "OLDPWD".toList).getD [], true)
    | dir :: _ => (dir, false)
  let before ← currentText
  let t := (← machine).tree
  let here := if dir.isEmpty then ['.'] else dir
  match t.entry here with
  | .ok (current, .directory) =>
    modifyMachine fun m => { m with tree := { m.tree with current } }
    let after ← currentText
    modifyProcess fun p => { p with
      bindings := (p.bindings.set "OLDPWD".toList before).set "PWD".toList after }
    if shows then write (after ++ ['\n'])
    return 0
  | _ => refuse ("can't cd to ".toList ++ dir)

end ErasedBridges.Shell
