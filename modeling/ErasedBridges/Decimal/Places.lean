import ErasedBridges.Decimal.Basic

/-!
# Decimals of so many places

A binary number is rounded to so many places after the point, or to so many digits after the
first one. It is rounded from its exact value, and a half goes to the even neighbour.
-/

namespace ErasedBridges.BinaryFloat

/-- The number to the nearest multiple of `10 ^ k`, in such multiples. -/
def scaled (b : BinaryFloat) (k : Int) : Nat :=
  roundDiv (b.ratio.1 * Nat.pow 10 (-k).toNat) (b.ratio.2 * Nat.pow 10 k.toNat)

def toPlaces (b : BinaryFloat) (places : Nat) : Decimal := ⟨b.scaled (-places), -places⟩

def reaches (b : BinaryFloat) (k : Int) : Bool :=
  b.ratio.2 * Nat.pow 10 k.toNat ≤ b.ratio.1 * Nat.pow 10 (-k).toNat

/-- The exponent of the first digit. An estimate from the length in bits is at most one too
small. -/
def firstDigit (b : BinaryFloat) : Int :=
  let estimate := Int.fdiv ((Int.ofNat b.mantissa.log2 + b.exponent) * 30103) 100000 - 1
  let above (i : Nat) : Int := estimate + 3 - Int.ofNat i
  (((List.range 5).map above).find? b.reaches).getD estimate

def toDigits (b : BinaryFloat) (more : Nat) : Decimal :=
  if b.mantissa = 0 then ⟨0, -more⟩
  else
    let k := b.firstDigit - more
    let d := b.scaled k
    if d = Nat.pow 10 (more + 1) then ⟨Nat.pow 10 more, k + 1⟩ else ⟨d, k⟩

/-- The mantissa rounded to so many hexadecimal digits after the first one, which stands for what
is left over. The exponent is that of the first digit. -/
def toHex (b : BinaryFloat) (more : Nat) (digits : Nat) : Nat :=
  if digits ≤ more then b.mantissa * Nat.pow 16 (more - digits)
  else roundDiv b.mantissa (Nat.pow 16 (digits - more))

end ErasedBridges.BinaryFloat
