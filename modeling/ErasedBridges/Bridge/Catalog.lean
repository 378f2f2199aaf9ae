import ErasedBridges.Bridge.Classify
import ErasedBridges.Bridge.Synthesis

/-!
# The catalog of methods that need bridges

The catalog goes through the interfaces by origin, and through the abstract methods of each in
the order of its text. Its bridges come in the same order.
-/

namespace ErasedBridges

structure CatalogEntry where
  declaration : Declaration
  pattern : Pattern
deriving DecidableEq, Repr

abbrev Catalog := List CatalogEntry

namespace ClassFile

def origin (l : Layout) (c : ClassFile) : Except PatchError Origin :=
  match c.name? with
  | none => .error (.location c.displayName .noClassLine)
  | some name =>
    if name = l.baseInterfaceName then .ok .generic
    else match l.variantOfInterface? name with
      | some p => .ok (.specialized p)
      | none => .error (.location name .notOptionInterface)

end ClassFile

namespace Catalog

def entryOf (l : Layout) (origin : Origin) (m : Method) :
    Except PatchError (Option CatalogEntry) := do
  let d ← PatchError.ofRead (Declaration.ofMethod l origin m)
  match ← d.classify l with
  | .noBridge => return none
  | .bridge pattern => return some ⟨d, pattern⟩

def ofInterface (l : Layout) (origin : Origin) (c : ClassFile) : Except PatchError Catalog := do
  let entries ← (c.methods.filter Method.isAbstract).mapM (entryOf l origin)
  return entries.filterMap id

/-- Interfaces of the same origin keep their order. -/
def sortByOrigin (classes : List (Origin × ClassFile)) : List (Origin × ClassFile) :=
  classes.mergeSort fun a b => a.1.rank ≤ b.1.rank

/-- The catalog of these interfaces. Each has to be an interface of the library before any method
is looked at. -/
def collect (l : Layout) (classes : List ClassFile) : Except PatchError Catalog := do
  let classes ← classes.mapM fun c => (c.origin l).map (·, c)
  let entries ← (sortByOrigin classes).mapM fun (origin, c) => ofInterface l origin c
  return entries.flatten

def synthesize (t : Target) (catalog : Catalog) : Except PatchError (List Bridge) := do
  let blocks ← catalog.mapM fun e => e.declaration.synthesize t e.pattern
  return blocks.flatten

end Catalog
end ErasedBridges
