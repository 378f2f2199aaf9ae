import ErasedBridges.Text.Basic

/-!
# Decimal numbers

Numbers are written without sign or leading zeros. A reader of a bounded number also takes one
leading plus sign and leading zeros.
-/

namespace ErasedBridges.Text

def decimal (n : Nat) : Text := Nat.toDigits 10 n

def signedDecimal : Int → Text
  | .ofNat n => decimal n
  | .negSucc n => '-' :: decimal (n + 1)

def digitsValue (s : Text) : Nat :=
  s.foldl (fun n c => 10 * n + (c.toNat - '0'.toNat)) 0

/-- Reads ASCII digits, at least one, whose value is at most `limit`. -/
def readDigits? (limit : Nat) (s : Text) : Option Nat :=
  if !s.isEmpty && s.all Char.isDigit && digitsValue s ≤ limit then some (digitsValue s) else none

def readDecimal? (limit : Nat) : Text → Option Nat
  | '+' :: s => readDigits? limit s
  | s => readDigits? limit s

def maxShort : Nat := 0xFFFF

def maxLine : Nat := 0xFFFFFFFF

end ErasedBridges.Text
