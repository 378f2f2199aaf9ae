import ErasedBridges.Shell.Arithmetic
import ErasedBridges.Shell.Children
import ErasedBridges.Shell.Fields

/-!
# Expanding words

A word becomes any number of fields. What stands in quotes stays together; the results of other
substitutions are split, and fields that are patterns become the names that they match.
-/

namespace ErasedBridges.Shell

open Running

abbrev ScriptRunner := Script → Running Unit

namespace Running

def report (message : Text) : Running Unit := do
  let p ← process
  let command := match p.command with
    | some name => name ++ ": ".toList
    | none => []
  complain (p.name ++ ": ".toList ++ Text.decimal p.line ++ ": ".toList ++ command ++ message)

/-- Ends the shell with a message, or the builtin command that it is in. -/
def refuse {α : Type} (message : Text) : Running α := do
  report message
  setStatus 2
  throw .failed

def setVariable (name value : Text) : Running Unit := do
  let p ← process
  if p.bindings.isReadOnly name then refuse (name ++ ": is read only".toList)
  let exported := p.hasOption 'a'
  modifyProcess fun p =>
    let bindings := p.bindings.update (fun v =>
      { v with value := some value, exported := v.exported || exported }) name
    -- Options are looked for from there on.
    if name = "OPTIND".toList then
      { p with bindings, optionIndex := max 1 (baseTen value).value, optionOffset := 0 }
    else { p with bindings }

end Running

namespace Process

def optionText (p : Process) : Text := "pubaCEVvxsnmiIfe".toList.filter p.options.elem

def value? (p : Process) (name : Text) : Option Text :=
  match name with
  | ['?'] => some (Text.decimal p.status)
  | ['$'] => some (Text.decimal p.shell)
  | ['#'] => some (Text.decimal p.arguments.length)
  | ['!'] => p.lastJob.map Text.decimal
  | ['-'] => some p.optionText
  | name =>
    if name.all Char.isDigit then
      let n := Text.digitsValue name
      if n = 0 then some p.name else p.arguments[n - 1]?
    else p.bindings.value? name

def separators? (p : Process) : Option Text := p.bindings.value? "IFS".toList

def separators (p : Process) : Text := p.separators?.getD " \t\n".toList

def joint (p : Process) : Text :=
  match p.separators? with
  | some s => s.take 1
  | none => [' ']

end Process

structure Spot where
  quoted : Bool
  /-- Whether fields are made. -/
  splits : Bool
  /-- Whether it is in the word of a parameter, where text is split too. -/
  inWord : Bool

def homeOf (p : Process) (user : Text) : Option Text :=
  if user.isEmpty then p.bindings.value? "HOME".toList
  else if user = "root".toList then some "/root".toList
  else none

/-- Text that starts with a tilde, which stands for a home unless more of a name may follow. -/
def tildeText (p : Process) (atEnd : Bool) (s : Text) : List Piece :=
  match s with
  | '~' :: rest =>
    let user := rest.takeWhile (· != '/')
    let path := rest.drop user.length
    match if path.isEmpty && !atEnd then none else homeOf p user with
    | some home => [.fixed home true, .fixed path false]
    | none => [.fixed s false]
  | s => [.fixed s false]

/-- Text in the value of a variable, where a tilde may stand after every colon too. -/
def tildeValue (p : Process) (atStart atEnd : Bool) (s : Text) : List Piece :=
  let pieces := Text.split (· == ':') s
  let expanded := pieces.zipIdx.map fun (piece, i) =>
    if i = 0 && !atStart then [Piece.fixed piece false]
    else tildeText p (atEnd || i + 1 < pieces.length) piece
  [Piece.fixed [':'] false].intercalate expanded

/-- What a script writes, without the line breaks at the end. -/
def outputOf (run : ScriptRunner) (script : Script) : Running Text := do
  let (status, bytes) ← capture (child Process.withoutTraps (run script))
  endIfDue
  concluded [status]
  modifyProcess ({ · with outputStatus := status.code })
  let text := (ofBytes bytes).filter (· != '\x00')
  return (text.reverse.dropWhile (· == '\n')).reverse

def substituted (spot : Spot) (s : Text) : List Piece :=
  if spot.quoted then [.fixed s true] else [.split [s]]

inductive ParameterValue where
  | absent
  | text (s : Text)
  | all (arguments : List Text)

namespace ParameterValue

def of (p : Process) (name : Text) : ParameterValue :=
  if name = ['@'] ∨ name = ['*'] then all p.arguments
  else match p.value? name with
    | some s => text s
    | none => absent

/-- Whether there is a value; an empty one counts if `emptyCounts` is set. -/
def isThere (joint : Text) (emptyCounts : Bool) : ParameterValue → Bool
  | absent => false
  | text s => emptyCounts || !s.isEmpty
  | all arguments => emptyCounts || !(Text.join joint arguments).isEmpty

/-- The value as pieces. Arguments become fields of their own where fields are made. -/
def pieces (p : Process) (spot : Spot) (name : Text) (edit : Text → Text) :
    ParameterValue → List Piece
  | absent => []
  | text s => substituted spot (edit s)
  | all arguments =>
    let joined := edit (Text.join p.joint arguments)
    let values := Text.split (· == '\x00') (edit (Text.join ['\x00'] arguments))
    if spot.quoted then
      if spot.splits && name = ['@'] then if arguments.isEmpty then [] else [.apart values]
      else [.fixed joined true]
    else if spot.splits && p.separators?.isSome then [.split values]
    else [.split [joined]]

def plain (joint : Text) : ParameterValue → Text
  | absent => []
  | text s => s
  | all arguments => Text.join joint arguments

end ParameterValue

def parameterPieces (spot : Spot) (name : Text) (adjustment : Adjustment) (emptyCounts : Bool)
    (word : Spot → Running (List Piece)) : Running (List Piece) := do
  let p ← process
  let value := ParameterValue.of p name
  let isThere := value.isThere p.joint emptyCounts
  let own : List Piece := value.pieces p spot name id
  let wordPieces : Running (List Piece) := word { spot with inWord := true }
  let wordText : Running Text := return (← word ⟨spot.quoted, false, false⟩).flatMap Piece.text
  let needed : Running Unit := do
    if let .absent := value then
      if p.hasOption 'u' then refuse (name ++ ": parameter not set".toList)
  match adjustment with
  | .none =>
    needed
    return own
  | .default => if isThere then return own else wordPieces
  | .alternative => if isThere then wordPieces else return []
  | .assign =>
    if isThere then return own
    let text ← wordText
    if !isName name then refuse (name ++ ": bad variable name".toList)
    setVariable name text
    return substituted spot text
  | .require =>
    if isThere then return own
    let text ← wordText
    refuse (name ++ ": ".toList ++ if !text.isEmpty then text
      else if emptyCounts then "parameter not set".toList
      else "parameter not set or null".toList)
  | .length =>
    needed
    return substituted spot (Text.decimal (value.plain p.joint).length)
  | .strip atStart longest =>
    needed
    let glob := Glob.ofMarked ((← word ⟨false, false, false⟩).flatMap Piece.marked)
    let edit (s : Text) : Text :=
      if atStart then glob.stripStart longest s else glob.stripEnd longest s
    return value.pieces p spot name edit
  | .bad => refuse "Bad substitution".toList

/-- The value of an expression. What it sets stays set. -/
def arithmeticText (expression : Text) : Running Text := do
  let p ← process
  let env : Surroundings := ⟨p.bindings.value?, p.bindings.isReadOnly⟩
  let (result, assigned) := evaluate env expression
  assigned.forM fun (name, n) => setVariable name (signedText n)
  match result with
  | .ok n => return signedText n
  | .error .quotientTooLarge => endWith (.signalled 8 false)
  | .error fault => refuse (fault.message expression)

mutual

def expandPart (run : ScriptRunner) : Nat → Spot → WordPart → Running (List Piece)
  | 0, _, _ => return []
  | fuel + 1, spot, part => do
    match part with
    | .plain s =>
      return [if spot.quoted then .fixed s true
        else if spot.inWord then .split [s]
        else .fixed s false]
    | .literal s => return [.mark, .fixed s true]
    | .quotes [.parameter ['@'] .none _ []] =>
      if spot.quoted then
        return .mark :: (← expandPart run fuel spot (.parameter ['@'] .none true []))
      else expandPart run fuel { spot with quoted := true } (.parameter ['@'] .none true [])
    | .quotes parts =>
      return .mark :: (← expandParts run fuel { spot with quoted := true } parts)
    | .parameter name adjustment emptyCounts word =>
      parameterPieces spot name adjustment emptyCounts fun spot => expandTilde run fuel spot word
    | .arithmetic expression =>
      let pieces ← expandParts run fuel ⟨true, false, false⟩ expression
      return substituted spot (← arithmeticText (pieces.flatMap Piece.text))
    | .output script => return substituted spot (← outputOf run script)

def expandParts (run : ScriptRunner) : Nat → Spot → Word → Running (List Piece)
  | 0, _, _ | _, _, [] => return []
  | fuel + 1, spot, part :: parts => do
    let pieces ← expandPart run fuel spot part
    return pieces ++ (← expandParts run fuel spot parts)

/-- A word at the start of which a tilde may stand. -/
def expandTilde (run : ScriptRunner) : Nat → Spot → Word → Running (List Piece)
  | 0, _, _ => return []
  | fuel + 1, spot, word => do
    match word with
    | .plain ('~' :: s) :: parts =>
      if spot.quoted then expandParts run fuel spot word
      else
        let home := tildeText (← process) parts.isEmpty ('~' :: s)
        return home ++ (← expandParts run fuel spot parts)
    | word => expandParts run fuel spot word

end

def partDepth : Nat := 0x100000

def valuePieces (run : ScriptRunner) (w : Word) : Running (List Piece) :=
  go true w
where
  go (atStart : Bool) : Word → Running (List Piece)
    | [] => return []
    | .plain s :: parts => do
      let pieces := tildeValue (← process) atStart parts.isEmpty s
      return pieces ++ (← go false parts)
    | part :: parts => do
      let pieces ← expandPart run partDepth ⟨false, false, false⟩ part
      return pieces ++ (← go false parts)

def expandWord (run : ScriptRunner) (w : Word) : Running (List Text) := do
  let pieces ← expandTilde run partDepth ⟨false, true, false⟩ w
  let p ← process
  let tree := (← machine).tree
  let fields := fieldsOf p.separators none pieces
  return if p.hasOption 'f' then fields.map Marked.text else fields.flatMap (expandPath tree)

def expandWords (run : ScriptRunner) (words : List Word) : Running (List Text) := do
  return (← words.mapM (expandWord run)).flatten

def expandValue (run : ScriptRunner) (w : Word) : Running Text :=
  return (← valuePieces run w).flatMap Piece.text

def expandText (run : ScriptRunner) (w : Word) : Running Text :=
  return (← expandTilde run partDepth ⟨false, false, false⟩ w).flatMap Piece.text

def expandDocument (run : ScriptRunner) (w : Word) : Running Text :=
  return (← expandParts run partDepth ⟨true, false, false⟩ w).flatMap Piece.text

def expandPattern (run : ScriptRunner) (w : Word) : Running Glob :=
  return Glob.ofMarked
    ((← expandTilde run partDepth ⟨false, false, false⟩ w).flatMap Piece.marked)

end ErasedBridges.Shell
