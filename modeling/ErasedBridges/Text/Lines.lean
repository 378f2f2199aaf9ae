import ErasedBridges.Text.Basic

/-!
# Lines

A line break ends a line, and a carriage return before it belongs to the break.
-/

namespace ErasedBridges.Text

/-- A carriage return at the end of a line is not part of it. -/
def dropReturn (line : Text) : Text := (dropEnd? ['\r'] line).getD line

/-- What follows the last line break is a line only if there is anything. -/
def lines (s : Text) : List Text :=
  let pieces := split (· == '\n') s
  pieces.dropLast.map dropReturn ++ pieces.getLast?.toList.filter (!·.isEmpty)

end ErasedBridges.Text
