import ErasedBridges.Shell.Utility.Basic

/-!
# Copying and moving

A copy goes into the target if that is a directory, and else becomes the target. What is copied
into a directory by the same command is not replaced by it again.
-/

namespace ErasedBridges.Shell

open Running

inductive InTheWay where
  | replaced
  | kept
  /-- The input says. -/
  | asked
deriving DecidableEq, Repr

structure Transfer where
  /-- Whether the source goes away. -/
  moves : Bool
  recursive : Bool
  verbose : Bool
  inTheWay : InTheWay
  /-- What the name of a file that is replaced is to end with, if it is to be kept. -/
  backup : Option Text
  /-- Whether a file in the way is removed first. -/
  removes : Bool

/-- The entries that a command has copied, and what it has made of them. -/
structure Traces where
  sources : List (List Text)
  targets : List (List Text)

def graft (t : FileTree) (source target : List Text) : FileTree :=
  (t.entries.filterMap fun (path, e) => (source.isPrefixOf? path).map fun rest =>
    (target ++ rest, e)).foldr (fun (path, e) t => t.put path e) t

namespace PathKind

def path? : PathKind → Option (List Text)
  | file path _ | directory path => some path
  | device => none

def isDirectory : PathKind → Bool
  | directory _ => true
  | _ => false

end PathKind

namespace Transfer

def quotedPair (a between b : Text) : Text := quotedName a ++ between ++ quotedName b

def announce (start : Text) (source target : Path) (backup : Option Path) : Running Unit :=
  Running.write (start ++ quotedPair source " -> ".toList target ++ (match backup with
    | some path => " (backup: ".toList ++ quotedName path ++ [')']
    | none => []) ++ ['\n'])

def mayReplace (target : Path) : Running Bool := do
  let _ ← flush
  let question := (← process).name ++ ": overwrite ".toList ++ quotedName target ++ "? ".toList
  let _ ← writeTo standardError (toBytes question)
  match ← peekFrom standardInput with
  | .error _ => return false
  | .ok bytes =>
    let line := bytes.takeWhile (· != 10)
    advance standardInput (line.length + 1)
    return line.head? == some 121 || line.head? == some 89

def refuse (message : Text) : Running (Option Bool) := do
  complainAs message
  return some false

/-- Whether a target may be replaced. Copies of directories leave what is there. -/
def replaces (how : Transfer) (target : Path) (origin : PathKind) : Running Bool :=
  match how.inTheWay with
  | .replaced => return true
  | .kept => return !how.moves && origin.isDirectory
  | .asked => if !how.moves && origin.isDirectory then return true else mayReplace target

/-- What speaks against replacing a target: the result of the operand if it ends here. -/
def obstacle? (how : Transfer) (traces : Traces) (source target : Path) (origin found : PathKind) :
    Running (Option Bool) := do
  if origin.path?.isSome && origin.path? == found.path? then
    return ← refuse (quotedPair source " and ".toList target ++ " are the same file".toList)
  unless ← how.replaces target origin do
    if how.moves && how.inTheWay == .kept then
      return ← refuse ("not replacing ".toList ++ quotedName target)
    return some (how.inTheWay == .kept)
  match origin.isDirectory, found.isDirectory with
  | true, false =>
    refuse ("cannot overwrite non-directory ".toList ++
      quotedPair target " with directory ".toList source)
  | false, true =>
    refuse ("cannot overwrite directory ".toList ++ quotedName target ++
      " with non-directory".toList)
  | _, isDirectory =>
    if !isDirectory && found.path?.any traces.targets.elem then
      refuse ("will not overwrite just-created ".toList ++ quotedPair target " with ".toList source)
    else return none

def putAside (how : Transfer) (target : Path) (found : Option PathKind) : Running (Option Path) :=
  match how.backup, found with
  | some ending, some (.file path content) => do
    let aside := path.dropLast ++ [path.getLastD [] ++ ending]
    modifyMachine fun m => { m with tree := (m.tree.erase path).put aside (.file content) }
    return some (target ++ ending)
  | _, _ => return none

def copyBytes (source target : Path) : Running Bool := do
  let content ← match ← openPath .input source with
    | .ok number => pure (((← machine).rest number).toOption.getD [])
    | .error _ => pure []
  match ← openPath .output target with
  | .error e =>
    -- A file under a name that only a directory may have.
    let e := if e == .isADirectory then .notADirectory else e
    failedTo ("cannot create regular file ".toList ++ quotedName target) e
    return false
  | .ok number =>
    match ← writeOpen number content with
    | .ok () => return true
    | .error e =>
      failedTo ("error writing ".toList ++ quotedName target) e
      return false

def rename (source target : Path) (origin : PathKind) : Running Bool := do
  let t := (← machine).tree
  let fail (e : OsError) : Running Bool := do
    failedTo ("cannot move ".toList ++ quotedPair source " to ".toList target) e
    return false
  match origin.path?, t.place target with
  | none, _ => fail .permissionDenied
  | _, .error e => fail e
  | some path, .ok place =>
    let (destination, onlyDirectory) := match place with
      | .existing p _ => (p, false)
      | .vacant p asDirectory => (p, asDirectory)
    if origin.isDirectory && path.isPrefixOf destination then
      complainAs ("cannot move ".toList ++
        quotedPair source " to a subdirectory of itself, ".toList target)
      return false
    else if origin.isDirectory && !(t.names destination).isEmpty then
      failedTo ("cannot overwrite ".toList ++ quotedName target) .notEmpty
      return false
    else if onlyDirectory && !origin.isDirectory then fail .notADirectory
    else
      let moved := (graft (t.eraseBelow destination) path destination).eraseBelow path
      modifyMachine ({ · with tree := moved })
      return true

/-- The entries of a directory go to another one. `root` is the directory that all goes to. -/
def copyEntries (copy : Path → Path → Running Bool) (root : List Text) (top : Path × Path)
    (source target : Path) (dir : List Text) : List Text → Running Bool
  | [] => return true
  | name :: names => do
    let done ←
      if dir ++ [name] = root then do
        complainAs ("cannot copy a directory, ".toList ++
          quotedPair top.1 ", into itself, ".toList top.2)
        pure false
      else copy (Path.join source name) (Path.join target name)
    let rest ← copyEntries copy root top source target dir names
    return done && rest

/-- Copies or moves one entry. `root` is known from the first directory on. -/
def entry (how : Transfer) (traces : Traces) (top : Path × Path) :
    Nat → Option (List Text) → Path → Path → Running Bool
  | 0, _, _, _ => return false
  | fuel + 1, root, source, target => do
    match ← kindOf source with
    | .error e =>
      failedTo ("cannot stat ".toList ++ quotedName source) e
      return false
    | .ok origin =>
      if origin.isDirectory && !how.recursive then
        complainAs ("-r not specified; omitting directory ".toList ++ quotedName source)
        return false
      let found ← kindOf target
      let obstacle ← match found with
        | .error .notFound => pure none
        | .error e => do
          failedTo ("cannot stat ".toList ++ quotedName target) e
          pure (some false)
        | .ok found => how.obstacle? traces source target origin found
      if let some result := obstacle then return result
      let aside ← how.putAside target found.toOption
      if how.moves then
        let done ← rename source target origin
        if done && how.verbose then announce "renamed ".toList source target aside
        return done
      match origin with
      | .directory dir =>
        let isNew := found.toOption.isNone
        match ← change fun t => if isNew then t.makeDirectory target else .ok t with
        | .error e =>
          failedTo ("cannot create directory ".toList ++ quotedName target) e
          return false
        | .ok () =>
          if isNew && how.verbose then announce [] source target none
          let t := (← machine).tree
          let own := match t.entry target with
            | .ok (path, _) => path
            | .error _ => []
          let root := root.getD own
          copyEntries (entry how traces top fuel (some root)) root top source target dir
            (t.namesByAge dir)
      | _ =>
        if how.removes && found.toOption.any (·.path?.isSome) then
          if how.verbose then Running.write ("removed ".toList ++ quotedName target ++ ['\n'])
        if how.verbose then announce [] source target aside
        copyBytes source target

def depth : Nat := 4096

def operand (how : Transfer) (traces : Traces) (source target : Path) : Running (Bool × Traces) := do
  let origin ← kindOf source
  match origin.toOption.bind PathKind.path? with
  | some path =>
    if traces.sources.elem path && (how.recursive || !origin.toOption.any PathKind.isDirectory) then
      let kind := if origin.toOption.any PathKind.isDirectory then "directory " else "file "
      complainAs ("warning: source ".toList ++ kind.toList ++ quotedName source ++
        " specified more than once".toList)
      return (true, traces)
    else
      let done ← how.entry traces (source, target) depth none source target
      let made := match (← machine).tree.entry target with
        | .ok (path, _) => [path]
        | .error _ => []
      return (done, ⟨path :: traces.sources, made ++ traces.targets⟩)
  | none => return (← how.entry traces (source, target) depth none source target, traces)

def placeIn (parents : Bool) (dir source : Path) : Path :=
  let trimmed := match (source.reverse.dropWhile (· == '/')).reverse with
    | [] => source
    | s => s
  let name := if parents then trimmed else Path.lastComponent trimmed
  if name = ['.', '.'] then dir else Path.join dir (name.dropWhile (· == '/'))

def into (how : Transfer) (parents : Bool) (dir : Path) (traces : Traces) :
    List Path → Running ExitStatus
  | [] => exitWith 0
  | source :: sources => do
    let place := placeIn parents dir source
    if parents then
      if let some above := Path.parent? place then
        let _ ← change (·.makeDirectories above)
    let (done, traces) ← how.operand traces source place
    let rest ← how.into parents dir traces sources
    return if done then rest else .exited 1

def run (how : Transfer) (i : Invoked) (noTarget parents : Bool) : Running ExitStatus := do
  let given := i.value? 't'
  if noTarget && given.isSome then
    misusedAlone "cannot combine --target-directory (-t) and --no-target-directory (-T)".toList
  else match given, i.operands.reverse with
    | _, [] => misused "missing file operand".toList
    | some dir, _ =>
      match ← kindOf dir with
      | .ok (.directory _) => how.into parents dir ⟨[], []⟩ i.operands
      | .ok _ => refuseTarget "target directory " dir .notADirectory
      | .error e => refuseTarget "target directory " dir e
    | none, [path] => misused ("missing destination file operand after ".toList ++ quotedName path)
    | none, target :: sources =>
      let single (source : Path) : Running ExitStatus := do
        let (done, _) ← how.operand ⟨[], []⟩ source target
        exitWith (if done then 0 else 1)
      if noTarget then
        match sources.reverse with
        | [source] => single source
        | source :: _ =>
          misused ("extra operand ".toList ++ quotedName ((i.operands[2]?).getD source))
        | [] => exitWith 1
      else match ← kindOf target, sources with
        | .ok (.directory _), _ => how.into parents target ⟨[], []⟩ sources.reverse
        | _, [source] =>
          if parents then misused "with --parents, the destination must be a directory".toList
          else single source
        | .ok _, _ => refuseTarget "target " target .notADirectory
        | .error e, _ => refuseTarget "target " target e
where
  refuseTarget (what : String) (target : Path) (e : OsError) : Running ExitStatus := do
    failedTo (what.toList ++ quotedName target) e
    exitWith 1
  misusedAlone (what : Text) : Running ExitStatus := do
    complainAs what
    exitWith 1

def inTheWayOf (i : Invoked) : InTheWay :=
  match i.options.reverse.find? fun o => o.1 == 'n' || o.1 == 'i' || o.1 == 'u' with
  | some ('n', _) => .kept
  | some ('i', _) => .asked
  | some (_, value) =>
    if value = "none".toList || value = "none-fail".toList then .kept else .replaced
  | none => .replaced

def backupOf (i : Invoked) : Option Text :=
  let asked := i.options.any fun o => o.1 == 'S' ||
    (o.1 == 'b' && o.2 != "none".toList && o.2 != "off".toList)
  if asked then some ((i.value? 'S').getD ['~']) else none

end Transfer

def transferOptions : List (String × Char) :=
  [("backup", 'b'), ("force", 'f'), ("interactive", 'i'), ("no-clobber", 'n'),
    ("no-target-directory", 'T'), ("suffix", 'S'), ("target-directory", 't'), ("update", 'u'),
    ("verbose", 'v'), ("context", 'Z'), ("debug", 'D'), ("strip-trailing-slashes", 'X'),
    ("help", '?'), ("version", '#')]

def cp : Utility :=
  withOptions ⟨"abdfilnprsuvxHLPRTZ", "tS", "bupCWY", transferOptions ++
    [("archive", 'a'), ("attributes-only", 'A'), ("copy-contents", 'A'), ("dereference", 'L'),
      ("link", 'l'), ("no-dereference", 'P'), ("no-preserve", 'C'), ("one-file-system", 'x'),
      ("parents", 'Q'), ("preserve", 'p'), ("recursive", 'r'), ("remove-destination", 'M'),
      ("reflink", 'W'), ("sparse", 'Y'), ("symbolic-link", 's')]⟩ fun i => do
    if i.options.any fun o => o.1 == 'n' then
      complainAs ("warning: behavior of -n is non-portable and may change in future; ".toList ++
        "use --update=none instead".toList)
    let how : Transfer := ⟨false, i.has "rRa", i.has "v", Transfer.inTheWayOf i,
      Transfer.backupOf i, i.has "M"⟩
    how.run i (i.has "T") (i.has "Q")

def mv : Utility :=
  withOptions ⟨"bfinuvTZ", "tS", "bu", transferOptions ++ [("no-copy", 'c')]⟩ fun i =>
    let how : Transfer := ⟨true, true, i.has "v", Transfer.inTheWayOf i, Transfer.backupOf i,
      false⟩
    how.run i (i.has "T") false

end ErasedBridges.Shell
