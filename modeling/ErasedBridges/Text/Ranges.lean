import ErasedBridges.Text.Basic

/-!
# Ranges of characters

A large class of characters is a list of ranges of code points, both ends included. Such a class
is cut in three: below U+3000, up to U+FFFF and above it.
-/

namespace ErasedBridges.Text

def inRanges (ranges : List (Nat × Nat)) (n : Nat) : Bool :=
  ranges.any fun (first, last) => first ≤ n && n ≤ last

/-- Whether a code point is in the part of a class where it belongs. -/
def inClass (low middle high : List (Nat × Nat)) (n : Nat) : Bool :=
  if n < 0x3000 then inRanges low n
  else if n < 0x10000 then inRanges middle n
  else inRanges high n

end ErasedBridges.Text
