import ErasedBridges.Report.Catalog
import ErasedBridges.Run.Patcher

/-!
# Reporting a patch run
-/

namespace ErasedBridges

namespace CastReport

def toJson (r : CastReport) : Json :=
  .ofFields [("class", .string r.className), ("written", .ofTexts r.written)]

end CastReport

namespace EmptyReport

def listing (r : EmptyReport) (declarations : Nat) : Text :=
  "patched ".toList ++ r.className ++ ": ".toList ++ Text.decimal r.interfacesAdded ++
    " interfaces, ".toList ++ Text.decimal r.bridges ++ " bridges (".toList ++
    Text.decimal r.covariantBridges ++ " covariant) from ".toList ++ Text.decimal declarations ++
    " declarations, line ".toList ++ Text.decimal r.sourceLine

def toJson (r : EmptyReport) : Json :=
  .ofFields [("class", .string r.className), ("source_line", .number r.sourceLine),
    ("interfaces_added", .number r.interfacesAdded), ("bridges", .number r.bridges),
    ("covariant_bridges", .number r.covariantBridges), ("written", .ofTexts r.written)]

end EmptyReport

namespace PatchReport

def listing (r : PatchReport) : Text :=
  Text.join ['\n'] ((r.casts.map fun c => "eliminated cast in ".toList ++ c.className) ++
    [r.empty.listing r.catalog.length])

def toJson (r : PatchReport) : Json :=
  .ofFields [("cast_eliminations", .array (r.casts.map CastReport.toJson)),
    ("catalog", r.catalog.toJson), ("empty_variant", r.empty.toJson)]

end PatchReport
end ErasedBridges
