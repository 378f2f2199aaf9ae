import ErasedBridges.Shell.Utility.Basic

/-!
# Utilities for files
-/

namespace ErasedBridges.Shell

def removeDirectory (t : FileTree) (path : Path) : Except OsError FileTree := do
  match ← t.entry path with
  | (_, .file _) => .error .notADirectory
  | (dir, .directory) => if (t.names dir).isEmpty then return t.erase dir else .error .notEmpty

def mayRemove (path : Path) (e : Entry) : Running Bool := do
  let kind := match e with
    | .directory => "directory "
    | .file content => if content.isEmpty then "regular empty file " else "regular file "
  let _ ← Running.flush
  let question := (← Running.process).name ++ ": remove ".toList ++ kind.toList ++
    quotedName path ++ "? ".toList
  let _ ← Running.writeTo standardError (toBytes question)
  match ← Running.peekFrom standardInput with
  | .error _ => return false
  | .ok bytes =>
    let line := bytes.takeWhile (· != 10)
    Running.advance standardInput (line.length + 1)
    return line.head? == some 121 || line.head? == some 89

/-- What is below a path, the deepest first, and the path itself last. -/
def entriesBelow (t : FileTree) : Nat → Path → List Path
  | 0, path => [path]
  | fuel + 1, path =>
    match t.entry path with
    | .ok (dir, .directory) =>
      (t.names dir).flatMap (fun name => entriesBelow t fuel (Path.join path name)) ++ [path]
    | _ => [path]

def removeEntry (i : Invoked) (path : Path) : Running Bool := do
  let t := (← Running.machine).tree
  let isDirectory := t.isDirectory path
  let forced := i.options.reverse.find? fun o => o.1 == 'f' || o.1 == 'i'
  let wanted ← match t.entry path, forced with
    | .ok (_, e), some ('i', _) =>
      if isDirectory && !i.has "rRd" then pure true else mayRemove path e
    | _, _ => pure true
  if !wanted then return true
  match ← Running.change fun t =>
      if isDirectory && i.has "rRd" then removeDirectory t path else t.removeFile path with
  | .ok () =>
    if i.has "v" then
      Running.write (((if isDirectory then "removed directory ".toList
        else "removed ".toList) ++ quotedName path ++ ['\n']))
    return true
  | .error e =>
    if i.has "f" && (e = .notFound || e = .notADirectory) then return true
    failedTo ("cannot remove ".toList ++ quotedName path) e
    return false

def removeOperand (i : Invoked) (path : Path) : Running Bool := do
  let name := Path.lastComponent (Path.trimEnd path)
  let t := (← Running.machine).tree
  if i.has "rR" && (path = ['.'] || name = ['.', '.'] || "/.".toList.isSuffixOf path) then
    complainAs ("refusing to remove '.' or '..' directory: skipping ".toList ++ quotedName path)
    return false
  else if i.has "rR" && t.isDirectory path then
    return (← allOf (removeEntry i) (entriesBelow t 4096 path)).isSuccess
  else removeEntry i path

def rm : Utility :=
  withOptions ⟨"rRfdivI", "", "", [("recursive", 'r'), ("force", 'f'), ("dir", 'd'),
      ("verbose", 'v'), ("one-file-system", 'x'), ("help", '?'), ("version", '#')]⟩ fun i =>
    if i.operands.isEmpty && !i.has "f" then misused "missing operand".toList
    else allOf (removeOperand i) i.operands

def stepsTo (path : Path) : List Path :=
  let steps := (List.range path.length).filter fun n =>
    path[n]? == some '/' && n != 0 && path[n - 1]? != some '/'
  steps.map path.take ++ [path]

def makeSteps (verbose : Bool) : List Path → Running Bool
  | [] => return true
  | path :: rest => do
    let t := (← Running.machine).tree
    if t.isDirectory path then makeSteps verbose rest
    else match ← Running.change (·.makeDirectory path) with
      | .ok () =>
        if verbose then
          Running.write ((← Running.process).name ++ ": created directory ".toList ++
            quotedName path ++ ['\n'])
        makeSteps verbose rest
      | .error e =>
        let e := match e, rest with
          | .notADirectory, [] => OsError.alreadyExists
          | .alreadyExists, _ :: _ => .notADirectory
          | e, _ => e
        failedTo ("cannot create directory ".toList ++ quotedName path) e
        return false

def makeOperand (i : Invoked) (path : Path) : Running Bool := do
  if i.has "p" then makeSteps (i.has "v") (stepsTo path)
  else
    let t := (← Running.machine).tree
    match ← Running.change fun t => t.makeDirectory path with
    | .ok () =>
      if i.has "v" then
        Running.write (((← Running.process).name ++
          ": created directory ".toList ++ quotedName path ++ ['\n']))
      return true
    | .error e =>
      let isThere := path.getLast? == some '/' && t.isFile (Path.trimEnd path)
      failedTo ("cannot create directory ".toList ++ quotedName path)
        (if isThere then .alreadyExists else e)
      return false

/-- Whether a text may say what is allowed with a file: octal digits, or letters and signs. -/
def isMode (s : Text) : Bool :=
  !s.isEmpty && (s.all (fun c => '0' ≤ c && c ≤ '7') ||
    (Text.split (· == ',') s).all fun clause =>
      let rest := clause.dropWhile "ugoa".toList.elem
      rest.head?.any "+-=".toList.elem && (rest.drop 1).all "rwxXstugo+-=".toList.elem)

def mkdir : Utility :=
  withOptions ⟨"pvZ", "m", "", [("parents", 'p'), ("verbose", 'v'), ("mode", 'm'), ("help", '?'),
      ("version", '#')]⟩ fun i => do
    match i.operands, i.value? 'm' with
    | [], _ => misused "missing operand".toList
    | paths, some mode =>
      if isMode mode then allOf (makeOperand i) paths
      else
        complainAs ("invalid mode ".toList ++ quotedArgument mode)
        exitWith 1
    | paths, none => allOf (makeOperand i) paths

def removeSteps (i : Invoked) : List Path → Running Bool
  | [] => return true
  | path :: above => do
    if i.has "v" then Running.write ("rmdir: removing directory, ".toList ++ quotedName path ++
      ['\n'])
    match ← Running.change (removeDirectory · path) with
    | .ok () => removeSteps i above
    | .error e =>
      if i.has "I" && e = .notEmpty then return true
      failedTo ("failed to remove ".toList ++ quotedName path) e
      return false

def rmdir : Utility :=
  withOptions ⟨"pv", "", "", [("parents", 'p'), ("verbose", 'v'),
      ("ignore-fail-on-non-empty", 'I'), ("help", '?'), ("version", '#')]⟩ fun i =>
    if i.operands.isEmpty then misused "missing operand".toList
    else allOf (fun path =>
      removeSteps i (if i.has "p" then (stepsTo path).reverse else [path])) i.operands

def touchOperand (i : Invoked) (path : Path) : Running Bool := do
  let t := (← Running.machine).tree
  match ← Running.change fun t =>
    if (t.entry path).toOption.isSome || i.has "c" then .ok t else t.writeFile path [] with
  | .ok () => return true
  | .error e =>
    let isNamedDirectory := path.getLast? == some '/'
    let what := if isNamedDirectory then "setting times of ".toList else "cannot touch ".toList
    let e := match e with
      | .isADirectory => if t.isFile (Path.trimEnd path) then .notADirectory else .notFound
      | e => e
    failedTo (what ++ quotedName path) e
    return false

def touch : Utility :=
  withOptions ⟨"acmfh", "dtr", "", [("no-create", 'c'), ("date", 'd'), ("reference", 'r'),
      ("time", 'x'), ("no-dereference", 'h'), ("help", '?'), ("version", '#')]⟩ fun i =>
    if i.operands.isEmpty then misused "missing file operand".toList
    else allOf (touchOperand i) i.operands

def listed (i : Invoked) (t : FileTree) (path : Path) : List Text :=
  match t.entry path with
  | .ok (dir, .directory) =>
    (if i.has "a" then [['.'], ['.', '.']] else []) ++
      (t.names dir).filter fun n => i.has "aA" || n.head? != some '.'
  | _ => []

/-- Files come first. Directories have a heading if anything else is listed. -/
def ls : Utility := fun args =>
  match (OptionTable.mk "aA1drCUl" "" "" [("all", 'a'), ("almost-all", 'A'), ("directory", 'd'),
      ("reverse", 'r'), ("help", '?'), ("version", '#')]).read args with
  | .error fault => misusedWith 2 fault
  | .ok i => do
    let t := (← Running.machine).tree
    let ordered (paths : List Text) : List Text := if i.has "r" then paths.reverse else paths
    let named := ordered (i.operands.mergeSort fun a b => !decide (b < a))
    let paths := if named.isEmpty then [['.']] else named
    let isShut (path : Path) : Bool := t.isDirectory path && !i.has "d"
    let given := if i.operands.isEmpty then [['.']] else i.operands
    let missing := given.filter fun path => (t.entry path).toOption.isNone
    missing.forM fun path => do
      match t.entry path with
      | .error e => failedTo ("cannot access ".toList ++ quotedName path) e
      | .ok _ => pure ()
    let found := paths.filter fun path => (t.entry path).toOption.isSome
    let files := found.filter (!isShut ·)
    let dirs := found.filter isShut
    let headed := 1 < paths.length
    let sections := dirs.map fun path =>
      (if headed then path ++ ":\n".toList else []) ++ (ordered (listed i t path)).flatMap (· ++ ['\n'])
    let all := (if files.isEmpty then [] else [files.flatMap (· ++ ['\n'])]) ++ sections
    Running.write (Text.join ['\n'] all)
    exitWith (if missing.isEmpty then 0 else 2)

def pwd : Utility := fun _ => do
  let dir := (← Running.machine).tree.current
  Running.write ('/' :: Text.join ['/'] dir ++ ['\n'])
  exitWith 0

def trimSlashes (s : Text) : Text :=
  let kept := (s.reverse.dropWhile (· == '/')).reverse
  if kept.isEmpty && !s.isEmpty then ['/'] else kept

def baseName (s : Text) : Text :=
  let kept := trimSlashes s
  if kept = ['/'] then kept else Path.lastComponent kept

/-- The last component without an ending, unless it is all of it. -/
def baseNameWithout (ending s : Text) : Text :=
  let name := baseName s
  if name = ending then name else (Text.dropEnd? ending name).getD name

def basename : Utility :=
  withOptions ⟨"az", "s", "", [("multiple", 'a'), ("suffix", 's'), ("zero", 'z'), ("help", '?'),
      ("version", '#')]⟩ fun i => do
    let stop : Text := if i.has "z" then ['\x00'] else ['\n']
    let write (ending : Text) (names : List Text) : Running ExitStatus := do
      Running.write (names.flatMap fun s => baseNameWithout ending s ++ stop)
      exitWith 0
    match i.operands with
    | [] => misused "missing operand".toList
    | names =>
      if i.has "as" then write ((i.value? 's').getD []) names
      else match names with
        | [s, ending] => write ending [s]
        | _ :: _ :: extra :: _ => misused ("extra operand ".toList ++ quotedName extra)
        | names => write [] names

def dirName (s : Text) : Text :=
  let dir := ((trimSlashes s).reverse.dropWhile (· != '/')).reverse
  if dir.isEmpty then (if s.head? == some '/' then ['/'] else ['.']) else trimSlashes dir

def dirname : Utility :=
  withOptions ⟨"z", "", "", [("zero", 'z'), ("help", '?'), ("version", '#')]⟩ fun i => do
    if i.operands.isEmpty then misused "missing operand".toList
    else
      let stop : Text := if i.has "z" then ['\x00'] else ['\n']
      Running.write (i.operands.flatMap fun s => dirName s ++ stop)
      exitWith 0

end ErasedBridges.Shell
