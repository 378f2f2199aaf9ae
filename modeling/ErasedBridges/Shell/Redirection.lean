import ErasedBridges.Shell.Device
import ErasedBridges.Shell.Expansion
import ErasedBridges.Shell.Reading

/-!
# Redirections

All words of redirections are expanded first, and then what they name is opened, one by one. A
document is expanded by a process of its own, which nothing is left of but what it wrote.
-/

namespace ErasedBridges.Shell

open Running

def openFault (creating : Bool) (path : Text) (e : OsError) : Text :=
  let words := match e with
    | .notFound | .notADirectory =>
      if creating then "Directory nonexistent".toList else "No such file".toList
    | e => e.words
  "cannot ".toList ++ (if creating then "create ".toList else "open ".toList) ++ path ++
    ": ".toList ++ words

structure ExpandedRedirect where
  descriptor : Nat
  kind : RedirectKind
  target : Text

def expandRedirect (run : ScriptRunner) : Redirect → Running ExpandedRedirect
  | .mk descriptor kind w => do
    match kind with
    | .document _ => return ⟨descriptor, kind, []⟩
    | .duplicate =>
      let target ← expandText run w
      let isDigit := target.length = 1 && target.all Char.isDigit
      unless isDigit || target == ['-'] do refuse SyntaxProblem.badDescriptor.message
      return ⟨descriptor, kind, target⟩
    | _ => return ⟨descriptor, kind, ← expandText run w⟩

/-- The mode that a file is opened in; with `clobbers` off output may not take the place of one. -/
def openMode (clobbers : Bool) : RedirectKind → OpenMode
  | .input => .input
  | .append => .append
  | .both => .both
  | .output => { OpenMode.output with isNew := !clobbers }
  | _ => .output

/-- A descriptor becomes what another one is; a dash closes it. -/
def duplicate (descriptor : Nat) (target : Text) : Running (Except Text Unit) := do
  if target = ['-'] then
    modifyProcess (·.setDescriptor descriptor none)
    return .ok ()
  let n := Text.digitsValue target
  match (← process).descriptors.lookup n with
  | some number =>
    modifyProcess (·.setDescriptor descriptor (some number))
    return .ok ()
  | none => return if n = descriptor then .ok ()
      else .error (target ++ ": ".toList ++ badDescriptor.words)

def readDocument (run : ScriptRunner) (descriptor index : Nat) : Running Unit := do
  let (_, writing, reading) ← makeStream
  let text := ((← process).documents.lookup index).getD []
  let _ ← child (fun p => p.withoutTraps.setDescriptor standardOutput (some writing)) do
    let s ← expandDocument run text
    let _ ← writeTo standardOutput (toBytes s)
  modifyProcess (·.setDescriptor descriptor (some reading))

def redirect (run : ScriptRunner) (r : ExpandedRedirect) : Running (Except Text Unit) := do
  match r.kind with
  | .duplicate => duplicate r.descriptor r.target
  | .document index =>
    readDocument run r.descriptor index
    return .ok ()
  | kind =>
    match ← openPath (openMode (!(← process).hasOption 'C') kind) r.target with
    | .ok number =>
      modifyProcess (·.setDescriptor r.descriptor (some number))
      return .ok ()
    | .error e => return .error (openFault (kind != .input) r.target e)

def redirectAll (run : ScriptRunner) : List ExpandedRedirect → Running Bool
  | [] => return true
  | r :: rs => do
    match ← redirect run r with
    | .ok () => redirectAll run rs
    | .error message =>
      report message
      return false

/-- Runs `body` with redirections, which end with it in whatever way it ends. It learns whether they
could be done. -/
def withRedirects {α : Type} (run : ScriptRunner) (redirects : List Redirect)
    (body : Bool → Running α) : Running α := fun before =>
  let redirected : Running α := do
    let rs ← redirects.mapM (expandRedirect run)
    body (← redirectAll run rs)
  let (result, after) := redirected.run before
  let process := redirects.foldl (fun p (.mk descriptor ..) =>
    p.setDescriptor descriptor (before.process.descriptors.lookup descriptor)) after.process
  (result, { after with process })

end ErasedBridges.Shell
