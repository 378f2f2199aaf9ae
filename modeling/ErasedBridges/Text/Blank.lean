import ErasedBridges.Text.Basic

/-!
# Blank characters

`isBlank` is the Unicode property `White_Space`. Words are the maximal runs of other characters.
-/

namespace ErasedBridges.Text

/-- The property `White_Space`: twenty-five characters, of which six are ASCII. -/
def isBlank (c : Char) : Bool :=
  let n := c.toNat
  (9 ≤ n && n ≤ 13) || n == 0x20 || n == 0x85 || n == 0xA0 || n == 0x1680 ||
    (0x2000 ≤ n && n ≤ 0x200A) || n == 0x2028 || n == 0x2029 || n == 0x202F ||
    n == 0x205F || n == 0x3000

def trimStart (s : Text) : Text := s.dropWhile isBlank

def trimEnd (s : Text) : Text := (s.reverse.dropWhile isBlank).reverse

def trim (s : Text) : Text := trimStart (trimEnd s)

def words (s : Text) : List Text := (split isBlank s).filter (!·.isEmpty)

end ErasedBridges.Text
