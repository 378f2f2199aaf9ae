import ErasedBridges.Shell.Process

/-!
# Devices and opening

Some paths lead to no file of the tree: they take or give bytes of their own, or stand for a
descriptor of the process.
-/

namespace ErasedBridges.Shell

open Running

inductive Device where
  | channel (c : Channel)
  | descriptor (n : Nat)
deriving DecidableEq, Repr

def nullDevice : Path := "/dev/null".toList

def Device.ofPath? (path : Path) : Option Device :=
  let named : List (String × Device) :=
    [("/dev/null", .channel .null), ("/dev/full", .channel .full), ("/dev/zero", .channel .zeros),
      ("/dev/stdin", .descriptor 0), ("/dev/stdout", .descriptor 1), ("/dev/stderr", .descriptor 2)]
  match named.lookup (String.ofList path) with
  | some d => some d
  | none =>
    ["/dev/fd/", "/proc/self/fd/"].findSome? fun dir =>
      (dir.toList.isPrefixOf? path).bind fun n => (Text.readDigits? 255 n).map .descriptor

structure OpenMode where
  reads : Bool
  writes : Bool
  appends : Bool
  /-- Whether the file is emptied. -/
  empties : Bool
  /-- Whether there may be no file yet. -/
  isNew : Bool
deriving DecidableEq, Repr

namespace OpenMode

def input : OpenMode := ⟨true, false, false, false, false⟩

def output : OpenMode := ⟨false, true, false, true, false⟩

def append : OpenMode := ⟨false, true, true, false, false⟩

def both : OpenMode := ⟨true, true, false, false, false⟩

end OpenMode

/-- The channel to an entry of the tree, which is made if it may be. -/
def FileTree.openPath (t : FileTree) (mode : OpenMode) (path : Path) :
    Except OsError (Channel × FileTree) := do
  if !mode.writes then
    match ← t.entry path with
    | (p, .file _) => return (.file p, t)
    | (_, .directory) => return (.directory, t)
  else
    let target ← t.fileTarget path
    match t.lookup target with
    | some (.file _) =>
      if mode.isNew then .error .alreadyExists
      return (.file target, if mode.empties then t.put target (.file []) else t)
    | _ => return (.file target, t.put target (.file []))

def openPath (mode : OpenMode) (path : Path) : Running (Except OsError Nat) := do
  let m ← machine
  let opened (channel : Channel) (m : Machine) : Running (Except OsError Nat) := do
    let (number, m) := m.addOpen ⟨channel, 0, mode.reads, mode.writes, mode.appends⟩
    modifyMachine fun _ => m
    return .ok number
  match Device.ofPath? path with
  | some (.channel c) => opened c m
  | some (.descriptor n) =>
    match (← process).descriptors.lookup n |>.bind (m.openFiles[·]?) with
    | none => return .error .notFound
    | some f =>
      match f.channel, (← process).descriptors.lookup n with
      -- A stream has only one place to read from.
      | .stream _, some number => return .ok number
      | .file p, _ =>
        opened f.channel (if mode.empties then { m with tree := m.tree.put p (.file []) } else m)
      | channel, _ => opened channel m
  | none =>
    match FileTree.openPath m.tree mode path with
    | .ok (channel, tree) => opened channel { m with tree }
    | .error e => return .error e

/-- Opens a path; a dash is the standard input. -/
def openOperand (path : Path) : Running (Except OsError Nat) := do
  if path = ['-'] then
    return match (← process).descriptors.lookup standardInput with
      | some number => .ok number
      | none => .error badDescriptor
  else openPath .input path

def readOperand (path : Path) : Running (Except OsError Bytes) := do
  match ← openOperand path with
  | .error e => return .error e
  | .ok number =>
    let result := (← machine).rest number
    if let .ok bytes := result then
      modifyMachine (·.advance number bytes.length)
      awaitEndOf number
    return result

inductive PathKind where
  | file (path : List Text) (content : Bytes)
  | directory (path : List Text)
  | device
deriving DecidableEq, Repr

def kindOf (path : Path) : Running (Except OsError PathKind) := do
  let m ← machine
  match Device.ofPath? path with
  | some (.channel _) => return .ok .device
  | some (.descriptor n) =>
    match (← process).descriptors.lookup n |>.bind (m.openFiles[·]?) with
    | none => return .error .notFound
    | some f => return .ok (match f.channel with
      | .file p => match m.tree.lookup p with
        | some (.file content) => .file p content
        | _ => .device
      | _ => .device)
  | none => return (m.tree.entry path).map fun
    | (p, .file content) => .file p content
    | (p, .directory) => .directory p

end ErasedBridges.Shell
