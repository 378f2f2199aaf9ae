import ErasedBridges.Decimal.Basic

/-!
# TOML values

Tables keep the order in which their keys were first given.
-/

namespace ErasedBridges

inductive Toml where
  | string (s : Text)
  | integer (n : Int)
  | float (x : FloatNumber)
  | boolean (b : Bool)
  | dateTime
  | array (items : List Toml)
  | table (fields : List (Text × Toml))

namespace Toml

/-- How far a table may still be added to: by a header if it was only named on the way to
another table, by dotted keys if dotted keys made it. -/
structure TableKind where
  implicit : Bool
  dotted : Bool
deriving DecidableEq, Repr

inductive Node where
  | value (v : Toml)
  | table (kind : TableKind) (fields : List (Text × Node))
  /-- Tables of one name, the last one first. -/
  | tables (last : List (Text × Node)) (before : List (List (Text × Node)))

abbrev Fields := List (Text × Node)

namespace Node

def onTheWay (dotted : Bool) : TableKind := ⟨true, dotted⟩

def defined : TableKind := ⟨false, false⟩

def setField (key : Text) (n : Node) : Fields → Fields
  | [] => [(key, n)]
  | (k, old) :: fields => if k = key then (key, n) :: fields else (k, old) :: setField key n fields

/-- Changes the table at a path. Tables on the way are made if they are not there. Dotted keys
do not go through tables that a header defined. -/
def modifyAt (dotted : Bool) (f : TableKind → Fields → Option Fields) :
    List Text → TableKind → Fields → Option Fields
  | [], kind, fields => f kind fields
  | key :: path, _, fields =>
    match fields.lookup key with
    | none => do
      let made ← modifyAt dotted f path (onTheWay dotted) []
      return setField key (.table (onTheWay dotted) made) fields
    | some (.table kind inner) =>
      if dotted && !kind.implicit then none
      else do return setField key (.table kind (← modifyAt dotted f path kind inner)) fields
    | some (.tables last before) => do
      return setField key (.tables (← modifyAt dotted f path defined last) before) fields
    | some (.value _) => none

/-- Adds a key and its value to a table. The last part of a dotted key goes into a table made by
dotted keys, a key without dots into one that is not. -/
def insert (path : List Text) (key : Text) (v : Toml) (fields : Fields) : Option Fields :=
  modifyAt true (fun kind inner =>
    if kind.dotted == path.isEmpty then none
    else if (inner.lookup key).isSome then none
    else some (inner ++ [(key, .value v)])) path defined fields

/-- Takes out a table that a header defines, with what is there of it already. -/
def openTable (key : Text) (fields : Fields) : Option (Fields × Fields) :=
  match fields.lookup key with
  | none => some ([], fields)
  | some (.table kind inner) =>
    if kind.implicit && !kind.dotted then some (inner, fields.filter (·.1 != key)) else none
  | some _ => none

def appendTable (key : Text) (fields : Fields) : Option Fields :=
  match fields.lookup key with
  | none => some (fields ++ [(key, .tables [] [])])
  | some (.tables last before) => some (setField key (.tables [] (last :: before)) fields)
  | some _ => none

mutual

def toToml : Node → Toml
  | value v => v
  | table _ fields => .table (fieldsToToml fields)
  | tables last before => .array ((tablesToToml before).reverse ++ [.table (fieldsToToml last)])

def fieldsToToml : List (Text × Node) → List (Text × Toml)
  | [] => []
  | (key, n) :: fields => (key, toToml n) :: fieldsToToml fields

def tablesToToml : List (List (Text × Node)) → List Toml
  | [] => []
  | fields :: rest => .table (fieldsToToml fields) :: tablesToToml rest

end

end Node
end Toml
end ErasedBridges
