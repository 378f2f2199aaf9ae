import ErasedBridges.Config.Toml.Scalar

/-!
# TOML documents

A document is a sequence of lines that give keys values and of headers that say which table the
keys after them belong to.
-/

namespace ErasedBridges.Toml

def skipSpace (s : Text) : Text := s.dropWhile isSpace

def endLine : Bool → Text → Option Text
  | _, [] => some []
  | _, '\n' :: s | _, '\r' :: '\n' :: s => some s
  | true, c :: s => if isPlain c then endLine true s else none
  | false, c :: s =>
    if isSpace c then endLine false s else if c = '#' then endLine true s else none

def skipLines : Bool → Text → Option Text
  | _, [] => some []
  | _, '\n' :: s | _, '\r' :: '\n' :: s => skipLines false s
  | true, c :: s => if isPlain c then skipLines true s else none
  | false, c :: s =>
    if isSpace c then skipLines false s
    else if c = '#' then skipLines true s
    else some (c :: s)

def isKeyChar (c : Char) : Bool := c.isAlphanum || c == '_' || c == '-'

def keyPart : Text → Option (Text × Text)
  | '"' :: s => basicString s
  | '\'' :: s => literalString s
  | s =>
    let key := s.takeWhile isKeyChar
    if key.isEmpty then none else some (key, s.drop key.length)

/-- Arrays and inline tables are nested less deep than this, and keys have fewer parts. -/
def depthLimit : Nat := 80

/-- The parts of a key before its last one, the last one, and what follows. -/
def keyParts : Nat → Text → Option (List Text × Text × Text)
  | 0, _ => none
  | fuel + 1, s => do
    let (part, rest) ← keyPart s
    match skipSpace rest with
    | '.' :: rest =>
      let (path, last, rest) ← keyParts fuel (skipSpace rest)
      return (part :: path, last, rest)
    | _ => return ([], part, rest)

def key (s : Text) : Option (List Text × Text × Text) :=
  (keyParts s.length s).filter fun (path, _, _) => path.length + 1 < depthLimit

mutual

def parseValue : Nat → Nat → Text → Option (Toml × Text)
  | 0, _, _ => none
  | fuel + 1, depth, s =>
    match s with
    | '[' :: s => do
      if depthLimit ≤ depth + 1 then failure
      let (items, rest) ← parseItems fuel (depth + 1) (← skipLines false s)
      return (.array items, rest)
    | '\x7b' :: s => do
      if depthLimit ≤ depth + 1 then failure
      match skipSpace s with
      | '\x7d' :: rest => some (.table [], rest)
      | s =>
        let (fields, rest) ← parseFields fuel (depth + 1) [] s
        return (.table (Node.fieldsToToml fields), rest)
    | '"' :: _ | '\'' :: _ => (quotedString s).map fun (t, rest) => (.string t, rest)
    | s => token s

/-- The items of an array to its closing bracket. A comma may follow the last one. -/
def parseItems : Nat → Nat → Text → Option (List Toml × Text)
  | 0, _, _ => none
  | _ + 1, _, ']' :: s => some ([], s)
  | fuel + 1, depth, s => do
    let (item, rest) ← parseValue fuel depth s
    match ← skipLines false rest with
    | ',' :: rest =>
      let (items, rest) ← parseItems fuel depth (← skipLines false rest)
      return (item :: items, rest)
    | ']' :: rest => return ([item], rest)
    | _ => none

def parseFields : Nat → Nat → Fields → Text → Option (Fields × Text)
  | 0, _, _, _ => none
  | fuel + 1, depth, fields, s => do
    let (path, last, v, rest) ← parseAssignment fuel depth s
    let fields ← Node.insert path last v fields
    match skipSpace rest with
    | ',' :: rest => parseFields fuel depth fields (skipSpace rest)
    | '\x7d' :: rest => return (fields, rest)
    | _ => none

def parseAssignment : Nat → Nat → Text → Option (List Text × Text × Toml × Text)
  | 0, _, _ => none
  | fuel + 1, depth, s => do
    let (path, last, rest) ← key s
    let '=' :: rest := skipSpace rest | none
    let (v, rest) ← parseValue fuel depth (skipSpace rest)
    return (path, last, v, rest)

end

/-- The document so far, and the path of the table that the last header named. -/
structure Document where
  root : Fields
  header : List Text

namespace Document

/-- Changes the table that holds the table of a header. -/
def modifyParent (d : Document) (path : List Text) (f : Fields → Option Fields) :
    Option Fields :=
  Node.modifyAt false (fun _ fields => f fields) path Node.defined d.root

def openTable (path : List Text) (last : Text) (d : Document) : Option Document := do
  let root ← d.modifyParent path fun fields => do
    let (inner, fields) ← Node.openTable last fields
    return fields ++ [(last, .table Node.defined inner)]
  return ⟨root, path ++ [last]⟩

def appendTable (path : List Text) (last : Text) (d : Document) : Option Document := do
  let root ← d.modifyParent path (Node.appendTable last)
  return ⟨root, path ++ [last]⟩

def insert (path : List Text) (last : Text) (v : Toml) (d : Document) : Option Document := do
  let root ← d.modifyParent d.header (Node.insert path last v)
  return { d with root }

def statement (d : Document) (s : Text) : Option (Document × Text) :=
  match s with
  | '[' :: '[' :: s => do
    let (path, last, rest) ← key (skipSpace s)
    let ']' :: ']' :: rest := skipSpace rest | none
    return (← d.appendTable path last, ← endLine false rest)
  | '[' :: s => do
    let (path, last, rest) ← key (skipSpace s)
    let ']' :: rest := skipSpace rest | none
    return (← d.openTable path last, ← endLine false rest)
  | s => do
    let (path, last, v, rest) ← parseAssignment (s.length + 1) 0 s
    return (← d.insert path last v, ← endLine false rest)

def read : Nat → Document → Text → Option Document
  | 0, _, _ => none
  | fuel + 1, d, s => do
    match ← skipLines false s with
    | [] => return d
    | s =>
      let (d, rest) ← d.statement s
      read fuel d rest

end Document

def parse? (s : Text) : Option (List (Text × Toml)) := do
  let s := match s with
    | '\uFEFF' :: s => s
    | s => s
  let d ← Document.read (s.length + 1) ⟨[], []⟩ s
  return Node.fieldsToToml d.root

end ErasedBridges.Toml
