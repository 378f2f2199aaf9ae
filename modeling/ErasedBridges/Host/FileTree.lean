import ErasedBridges.Host.Path

/-!
# A tree of files

Files and directories are kept by the components of their absolute paths. Every operation follows
a path component by component, so a path through something that is not a directory fails as the
system would have it fail.
-/

namespace ErasedBridges

inductive Entry where
  | file (content : Bytes)
  | directory
deriving DecidableEq, Repr

/-- The root is a directory without an entry. Relative paths start from `current`. -/
structure FileTree where
  entries : List (List Text × Entry)
  current : List Text
deriving DecidableEq, Repr

/-- Where a path leads: to an entry, or to a name that its directory does not hold yet. -/
inductive Place where
  | existing (path : List Text) (entry : Entry)
  | vacant (path : List Text) (asDirectory : Bool)
deriving DecidableEq, Repr

namespace FileTree

def lookup (t : FileTree) (path : List Text) : Option Entry :=
  if path.isEmpty then some .directory else t.entries.lookup path

/-- Puts an entry at a path, in the place of the one that is there. New entries come first. -/
def put (path : List Text) (e : Entry) (t : FileTree) : FileTree :=
  { t with entries := if t.entries.any (·.1 == path)
      then t.entries.map fun old => if old.1 == path then (path, e) else old
      else (path, e) :: t.entries }

def erase (path : List Text) (t : FileTree) : FileTree :=
  { t with entries := t.entries.filter (·.1 != path) }

def walk (t : FileTree) (dir : List Text) : List Text → Except OsError Place
  | [] => .ok (.existing dir .directory)
  | c :: cs =>
    if c.isEmpty || c == ['.'] then t.walk dir cs
    else if c == ['.', '.'] then t.walk dir.dropLast cs
    else if Path.maxName < (Text.encode c).length then .error .nameTooLong
    else match t.lookup (dir ++ [c]) with
      | some .directory => t.walk (dir ++ [c]) cs
      | some (.file content) =>
        if cs.isEmpty then .ok (.existing (dir ++ [c]) (.file content))
        else .error .notADirectory
      | none =>
        if cs.all (·.isEmpty) then .ok (.vacant (dir ++ [c]) !cs.isEmpty) else .error .notFound

def place (t : FileTree) (path : Path) : Except OsError Place :=
  match Path.fault? path with
  | some e => .error e
  | none => t.walk (if Path.isAbsolute path then [] else t.current) (Path.components path)

def entry (t : FileTree) (path : Path) : Except OsError (List Text × Entry) := do
  match ← t.place path with
  | .existing path e => return (path, e)
  | .vacant .. => .error .notFound

def isFile (t : FileTree) (path : Path) : Bool :=
  match t.entry path with
  | .ok (_, .file _) => true
  | _ => false

def isDirectory (t : FileTree) (path : Path) : Bool :=
  match t.entry path with
  | .ok (_, .directory) => true
  | _ => false

def readFile (t : FileTree) (path : Path) : Except OsError Bytes := do
  match ← t.entry path with
  | (_, .file content) => return content
  | (_, .directory) => .error .isADirectory

def fileTarget (t : FileTree) (path : Path) : Except OsError (List Text) := do
  match ← t.place path with
  | .existing path (.file _) => return path
  | .existing _ .directory => .error .isADirectory
  | .vacant path asDirectory => if asDirectory then .error .isADirectory else return path

def writeFile (t : FileTree) (path : Path) (content : Bytes) : Except OsError FileTree :=
  (t.fileTarget path).map fun target => t.put target (.file content)

def removeFile (t : FileTree) (path : Path) : Except OsError FileTree := do
  match ← t.entry path with
  | (path, .file _) => return t.erase path
  | (_, .directory) => .error .isADirectory

def makeDirectory (t : FileTree) (path : Path) : Except OsError FileTree := do
  match ← t.place path with
  | .existing .. => .error .alreadyExists
  | .vacant path _ => return t.put path .directory

def ensureDirectory (t : FileTree) (path : Path) : Except OsError FileTree :=
  match t.makeDirectory path with
  | .ok t => .ok t
  | .error e => if t.isDirectory path then .ok t else .error e

/-- Makes a directory and those it lies in, at most `depth` of them. -/
def makeDirectoriesWithin (t : FileTree) (path : Path) : Nat → Except OsError FileTree
  | 0 => .error .notFound
  | depth + 1 =>
    if path.isEmpty then .ok t
    else match t.ensureDirectory path with
      | .error .notFound => do
        let some parent := Path.parent? path | .error .notFound
        let t ← t.makeDirectoriesWithin parent depth
        t.ensureDirectory path
      | result => result

def makeDirectories (t : FileTree) (path : Path) : Except OsError FileTree :=
  t.makeDirectoriesWithin path (path.length + 1)

/-- A tree with a directory to start from, one for temporary files and the home of the user. -/
def bare : FileTree :=
  ⟨["work", "tmp", "root"].map fun name => ([name.toList], .directory), ["work".toList]⟩

def add (path : Path) (content : Option Bytes) (t : FileTree) : Except OsError FileTree := do
  match content with
  | none => t.makeDirectories path
  | some content =>
    let t ← match Path.parent? path with
      | some dir => t.makeDirectories dir
      | none => pure t
    t.writeFile path content

/-- Whatever is at a path goes, and what is below it. -/
def eraseBelow (path : List Text) (t : FileTree) : FileTree :=
  { t with entries := t.entries.filter fun e => !path.isPrefixOf e.1 }

def removeTree (t : FileTree) (path : Path) : FileTree :=
  match t.entry path with
  | .ok (path, _) => t.eraseBelow path
  | .error _ => t

def namesByAge (t : FileTree) (dir : List Text) : List Text :=
  (t.entries.filterMap fun (path, _) =>
    match dir.isPrefixOf? path with
    | some [name] => some name
    | _ => none).reverse

/-- The names in a directory, in the order of their characters. -/
def names (t : FileTree) (dir : List Text) : List Text :=
  (t.namesByAge dir).mergeSort fun a b => !decide (b < a)

def filesBelow (t : FileTree) (dir : List Text) : List (Text × Bytes) :=
  t.entries.filterMap fun (path, e) =>
    match dir.isPrefixOf? path, e with
    | some rest, .file content => some (Text.join ['/'] rest, content)
    | _, _ => none

end FileTree
end ErasedBridges
