import ErasedBridges.Shell.Builtin.Basic

/-!
# Builtin commands for variables

What sets, shows, marks and removes variables, arguments, options and aliases.
-/

namespace ErasedBridges.Shell

open Running

def showVariables (start : Text) (p : Variable → Bool) : Running Unit := do
  let chosen := (← process).bindings.filter fun v => p v.2
  let sorted := chosen.mergeSort fun a b => !decide (b.1 < a.1)
  sorted.forM fun (name, v) => write (start ++ name ++ (match v.value with
    | some s => '=' :: quotedValue s
    | none => []) ++ ['\n'])

def checkName (name : Text) : Running Unit := do
  unless isName name do refuse (name ++ ": bad variable name".toList)

def markVariables (mark : Variable → Variable) (isMarked : Variable → Bool) : Builtin := fun c => do
  let (options, names) ← c.options "p" ""
  if names.isEmpty || !options.isEmpty then
    showVariables (c.name ++ [' ']) isMarked
  else names.forM fun a => do
    let (name, value) := nameAndValue a
    checkName name
    if let some value := value then setVariable name value
    modifyProcess fun p => { p with bindings := p.bindings.update mark name }
  return 0

def exportCommand : Builtin := markVariables ({ · with exported := true }) (·.exported)

def readOnlyCommand : Builtin := markVariables ({ · with readOnly := true }) (·.readOnly)

def keepVariable (name : Text) : Running Unit := modifyProcess fun p =>
  match p.scopes with
  | [] => p
  | scope :: scopes => { p with scopes := ((name, p.bindings.lookup name) :: scope) :: scopes }

def optionsKey : Text := ['-']

/-- Variables of a function, which keep the values that they have outside until they are set. -/
def localCommand : Builtin := fun c => do
  let (_, names) ← c.options "" ""
  if (← process).calls = 0 then refuse "not in a function".toList
  names.forM fun a => do
    if a = optionsKey then
      modifyProcess fun p => match p.scopes with
        | [] => p
        | scope :: scopes =>
          { p with scopes := ((optionsKey, some ⟨some p.options, false, false⟩) :: scope) :: scopes }
    else
      let (name, value) := nameAndValue a
      if value.isNone then checkName name
      keepVariable name
      match value with
      | some value => setVariable name value
      | none => modifyProcess fun p => { p with bindings := p.bindings.update id name }
  return 0

def leaveScope : Running Unit := modifyProcess fun p =>
  match p.scopes with
  | [] => p
  | scope :: scopes =>
    scope.foldl (fun p (name, old) =>
      if name = optionsKey then { p with options := (old.bind (·.value)).getD p.options }
      else { p with bindings := p.bindings.restore name old }) { p with scopes }

def unset : Builtin := fun c => do
  let (options, names) ← c.options "vf" ""
  let ofFunctions := (options.getLast?.map (·.1)) == some 'f'
  names.forM fun name => do
    if ofFunctions then
      modifyProcess fun p => { p with functions := p.functions.filter (·.1 != name) }
    else
      checkName name
      if (← process).bindings.isReadOnly name then refuse (name ++ ": is read only".toList)
      modifyProcess fun p => { p with bindings := p.bindings.restore name none }
  return 0

def setArguments (arguments : List Text) : Running Unit := modifyProcess fun p =>
  { p with arguments, optionIndex := 1, optionOffset := 0 }

def setCommand : Builtin := fun c => do
  if c.args.isEmpty then showVariables [] (·.value.isSome)
  else
    let o ← readOptions false c.args
    if o.ending = some ['-'] then
      setOption false 'x'
      setOption false 'v'
    if !o.rest.isEmpty || o.ending = some ['-', '-'] then setArguments o.rest
    if (← process).hasOption 'm' then
      setOption false 'm'
      report "can't access tty; job control turned off".toList
  return 0

def shift : Builtin := fun c => do
  let n ← c.number 1
  let arguments := (← process).arguments
  if arguments.length < n then refuse "can't shift that many".toList
  setArguments (arguments.drop n)
  return 0

/-- A line of the input: its pieces, how many bytes it takes, and whether it is over before the
input is. A backslash takes the meaning from the character after it. -/
def readLine (raw : Bool) : Text → Nat → Text → List Piece × Nat × Bool
  | current, taken, [] => ([.split [current.reverse]], taken, false)
  | current, taken, c :: rest =>
    if c = '\n' then ([.split [current.reverse]], taken + 1, true)
    else if c = '\x00' then readLine raw current (taken + 1) rest
    else if c = '\\' && !raw then
      match rest with
      | [] => ([.split [current.reverse]], taken + 1, false)
      | '\n' :: rest =>
        let (pieces, taken, whole) := readLine raw [] (taken + 2) rest
        (.split [current.reverse] :: pieces, taken, whole)
      | d :: rest =>
        let (pieces, taken, whole) := readLine raw [] (taken + 2) rest
        (.split [current.reverse] :: .fixed [d] false :: pieces, taken, whole)
    else readLine raw (c :: current) (taken + 1) rest

/-- Reads a line into variables, of which the last takes all the words that are left. -/
def read : Builtin := fun c => do
  let (options, names) ← c.options "r" "p"
  if names.isEmpty then refuse "arg count".toList
  let raw := options.any (·.1 == 'r')
  let input := ofBytes ((← peekFrom standardInput).toOption.getD [])
  let (pieces, taken, whole) := readLine raw [] 0 input
  advance standardInput taken
  unless whole do awaitEnd standardInput
  let fields := fieldsOf (← process).separators (some names.length) pieces
  names.zipIdx.forM fun (name, i) => do
    checkName name
    setVariable name (((fields[i]?).map Marked.text).getD [])
  return if whole then 0 else 1

structure FoundOption where
  letter : Char
  argument : Option Text
  /-- What is said about it. -/
  complaint : Option Text
  index : Nat
  offset : Nat
  isLast : Bool

def nextOption (spec : Text) (args : List Text) (index offset : Nat) : FoundOption :=
  let silent := spec.head? == some ':'
  let before := if index ≤ 1 || offset = 0 then [] else ((args[index - 2]?).getD []).drop offset
  let (cluster, index) : Text × Nat :=
    if !before.isEmpty then (before, index)
    else match args[index - 1]? with
      | some ['-', '-'] => ([], index + 1)
      | some ('-' :: s) => if s.isEmpty then ([], index) else (s, index + 1)
      | _ => ([], index)
  match cluster with
  | [] => ⟨'?', none, none, index, 0, true⟩
  | c :: s =>
    let offset (s : Text) : Nat := ((args[index - 2]?).getD []).length - s.length
    match (if c = ':' then [] else spec.dropWhile (· != c)) with
    | [] =>
      if silent then ⟨'?', some [c], none, index, offset s, false⟩
      else ⟨'?', none, some ("Illegal option -".toList ++ [c]), index, offset s, false⟩
    | _ :: ':' :: _ =>
      match s, args[index - 1]? with
      | [], none =>
        if silent then ⟨':', some [c], none, index, 0, false⟩
        else ⟨'?', none, some ("No arg for -".toList ++ c :: " option".toList), index, 0, false⟩
      | [], some value => ⟨c, some value, none, index + 1, 0, false⟩
      | s, _ => ⟨c, some s, none, index, 0, false⟩
    | _ => ⟨c, some [], none, index, offset s, false⟩

def getOptions : Builtin := fun c => do
  match c.args with
  | spec :: name :: given =>
    let p ← process
    let args := if given.isEmpty then p.arguments else given
    let (index, offset) := if args.length + 1 < p.optionIndex then (1, 0)
      else (p.optionIndex, p.optionOffset)
    let found := nextOption spec args index offset
    unless found.isLast do
      if let some message := found.complaint then complain message
      match found.argument with
      | some s => setVariable "OPTARG".toList s
      | none => modifyProcess fun p =>
          { p with bindings := p.bindings.restore "OPTARG".toList none }
    setVariable "OPTIND".toList (Text.decimal found.index)
    modifyProcess ({ · with optionIndex := found.index, optionOffset := found.offset })
    checkName name
    setVariable name [found.letter]
    return if found.isLast then 1 else 0
  | _ => refuse "Usage: getopts optstring var [arg...]".toList

def aliasCommand : Builtin := fun c => do
  let line (name value : Text) : Running Unit := write (name ++ '=' :: quotedValue value ++ ['\n'])
  let one (a : Text) : Running Bool := do
    let (name, value) := nameAndValue a
    let aliases := (← process).aliases
    match name, value with
    | _ :: _, some value =>
      modifyProcess fun p =>
        { p with aliases := p.aliases.filter (·.1 != name) ++ [(name, value)] }
      return true
    | _, _ =>
      match aliases.lookup a with
      | some value =>
        line a value
        return true
      | none =>
        complain ("alias: ".toList ++ a ++ " not found".toList)
        return false
  if c.args.isEmpty then
    (← process).aliases.forM fun (name, value) => line name value
    return 0
  else return if (← c.args.mapM one).all id then 0 else 1

def unalias : Builtin := fun c => do
  let (options, names) ← c.options "a" ""
  if !options.isEmpty then
    modifyProcess ({ · with aliases := [] })
    return 0
  let one (name : Text) : Running Bool := do
    if ((← process).aliases.lookup name).isSome then
      modifyProcess fun p => { p with aliases := p.aliases.filter (·.1 != name) }
      return true
    else
      complain ("unalias: ".toList ++ name ++ " not found".toList)
      return false
  return if (← names.mapM one).all id then 0 else 1

end ErasedBridges.Shell
