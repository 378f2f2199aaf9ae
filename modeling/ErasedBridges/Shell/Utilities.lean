import ErasedBridges.Shell.Utility.Cat
import ErasedBridges.Shell.Utility.Conditions
import ErasedBridges.Shell.Utility.Files
import ErasedBridges.Shell.Utility.Printing
import ErasedBridges.Shell.Utility.Streams
import ErasedBridges.Shell.Utility.Transfer

/-!
# Utilities

The programs that scripts may start.
-/

namespace ErasedBridges.Shell

def utilities : List (Text × Utility) :=
  [("true".toList, fun _ => exitWith 0), ("false".toList, fun _ => exitWith 1),
    ("cat".toList, cat), ("head".toList, head), ("tail".toList, tail), ("wc".toList, wc),
    ("tr".toList, tr), ("sort".toList, sort), ("tee".toList, tee), ("cp".toList, cp),
    ("mv".toList, mv), ("rm".toList, rm), ("mkdir".toList, mkdir), ("rmdir".toList, rmdir),
    ("touch".toList, touch), ("ls".toList, ls), ("basename".toList, basename),
    ("dirname".toList, dirname), ("pwd".toList, pwd), ("sleep".toList, sleep),
    ("echo".toList, echo), ("printf".toList, printf), ("seq".toList, seq),
    ("expr".toList, expr), ("test".toList, test false), ("[".toList, test true)]

end ErasedBridges.Shell
