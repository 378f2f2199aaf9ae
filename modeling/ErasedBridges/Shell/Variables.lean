import ErasedBridges.Shell.Syntax

/-!
# Variables

A variable may have no value and still be exported or read only. What is set keeps these marks.
-/

namespace ErasedBridges.Shell

structure Variable where
  value : Option Text
  exported : Bool
  readOnly : Bool
deriving DecidableEq, Repr

abbrev Variables := List (Text × Variable)

namespace Variables

def value? (vs : Variables) (name : Text) : Option Text := (vs.lookup name).bind (·.value)

def isReadOnly (vs : Variables) (name : Text) : Bool := (vs.lookup name).any (·.readOnly)

def update (f : Variable → Variable) (name : Text) : Variables → Variables
  | [] => [(name, f ⟨none, false, false⟩)]
  | (n, v) :: vs => if n = name then (n, f v) :: vs else (n, v) :: update f name vs

def set (name value : Text) (vs : Variables) : Variables :=
  vs.update ({ · with value := some value }) name

def restore (name : Text) (old : Option Variable) (vs : Variables) : Variables :=
  match old with
  | some v => vs.update (fun _ => v) name
  | none => vs.filter (·.1 != name)

def exports (vs : Variables) : Variables := vs.filterMap fun (name, v) =>
  if v.exported && v.value.isSome then some (name, { v with readOnly := false }) else none

end Variables
end ErasedBridges.Shell
