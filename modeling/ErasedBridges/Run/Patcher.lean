import ErasedBridges.Bridge.Catalog
import ErasedBridges.ClassFile.Printer
import ErasedBridges.ClassFile.Reader
import ErasedBridges.Patch.EmptyVariant
import ErasedBridges.Run.Plan
import ErasedBridges.Source.Declaration

/-!
# Patching a whole library

A run eliminates the cast of the eight classes of present values, collects the catalog from the
nine interfaces, and patches the empty class.
-/

namespace ErasedBridges

structure CastReport where
  className : Text
  written : List Path
deriving DecidableEq, Repr

structure EmptyReport where
  className : Text
  sourceLine : Nat
  interfacesAdded : Nat
  bridges : Nat
  covariantBridges : Nat
  written : List Path
deriving DecidableEq, Repr

structure PatchReport where
  casts : List CastReport
  catalog : Catalog
  empty : EmptyReport
deriving DecidableEq, Repr

namespace Plan

def load (className : Text) : Plan ClassFile := do
  let text ← disassemble className done
  ofPatch className (PatchError.ofRead (ClassFile.read text))

def eliminateCast (l : Layout) (className : Text) : Plan CastReport := do
  let c ← load className
  let patched ← ofPatch className (c.eliminateCast l.castMethod)
  let written ← assemble className patched.printed done
  return ⟨className, written⟩

def collectCatalog (l : Layout) : Plan Catalog := do
  let classes ← (l.baseInterfaceName :: l.interfaces).mapM load
  ofPatch l.baseInterfaceName (Catalog.collect l classes)

def sourcePath (l : Layout) (sources : Path) : Path :=
  Path.join sources (l.emptyClassName ++ ".java".toList)

/-- The line that the bridges are attributed to: they have no source of their own. -/
def sourceLine (l : Layout) (sources : Path) : Plan Nat := do
  let path := sourcePath l sources
  let text ← readSource path done
  match Source.declarationLine? l.emptyClass text with
  | some line => return line
  | none => failed (.noDeclaration l.emptyClass path)

def patchEmpty (l : Layout) (sources : Path) (catalog : Catalog) : Plan EmptyReport := do
  let className := l.emptyClassName
  let line ← sourceLine l sources
  let bridges ← ofPatch className (catalog.synthesize ⟨l, line⟩)
  let c ← load className
  let patched ← ofPatch className (c.patchEmpty l (bridges.map Bridge.method))
  let written ← assemble className patched.printed done
  return {
    className
    sourceLine := line
    interfacesAdded := patched.interfaces.length - c.interfaces.length
    bridges := bridges.length
    covariantBridges := (bridges.filter (·.covariant)).length
    written }

def patchLibrary (l : Layout) (sources : Path) : Plan PatchReport := do
  let casts ← Primitive.all.mapM fun p => eliminateCast l (l.someClass p)
  let catalog ← collectCatalog l
  let empty ← patchEmpty l sources catalog
  return ⟨casts, catalog, empty⟩

end Plan
end ErasedBridges
