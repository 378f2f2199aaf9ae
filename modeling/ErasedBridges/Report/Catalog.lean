import ErasedBridges.Bridge.Catalog
import ErasedBridges.Report.Pattern

/-!
# Listing a catalog
-/

namespace ErasedBridges

namespace Origin

def toJson : Origin → Json
  | generic => .ofString "generic"
  | specialized p => .ofFields [("specialized", .string p.lowerName)]

end Origin

namespace CatalogEntry

/-- The origin on eight columns, the method, and its pattern. -/
def listing (e : CatalogEntry) : Text :=
  let d := e.declaration
  Text.padRight 8 d.origin.name ++ ' ' :: d.name ++ d.descriptor.text ++ " -> ".toList ++
    e.pattern.shown

/-- A declaration without signature has no such field. -/
def toJson (e : CatalogEntry) : Json :=
  let d := e.declaration
  .ofFields ([("origin", d.origin.toJson), ("name", .string d.name),
    ("descriptor", .string d.descriptor.text)] ++
    (d.signature.toList.map fun s => ("signature", .string s.text)) ++
    [("pattern", e.pattern.toJson)])

end CatalogEntry

namespace Catalog

def listing (c : Catalog) : Text := Text.join ['\n'] (c.map CatalogEntry.listing)

def toJson (c : Catalog) : Json := .array (c.map CatalogEntry.toJson)

end Catalog
end ErasedBridges
