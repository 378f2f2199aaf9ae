import ErasedBridges.Text.Decimal

/-!
# Decimal and binary numbers

A decimal is `digits * 10 ^ exponent`, a binary number `mantissa * 2 ^ exponent`. Neither is
rounded. A floating number is a binary number with a sign, or infinite, or no number. `roundDiv`
rounds a quotient to the nearest whole number, and a half to the even one.
-/

namespace ErasedBridges

structure Decimal where
  digits : Nat
  exponent : Int
deriving DecidableEq, Repr

structure BinaryFloat where
  mantissa : Nat
  exponent : Int
deriving DecidableEq, Repr

inductive Magnitude where
  | finite (b : BinaryFloat)
  | infinite
  | notANumber
deriving DecidableEq, Repr

structure FloatNumber where
  negative : Bool
  magnitude : Magnitude
deriving DecidableEq, Repr

/-- `n / d` to the nearest whole number. -/
def roundDiv (n d : Nat) : Nat :=
  let q := n / d
  let r := n % d
  if 2 * r < d then q else if d < 2 * r then q + 1 else q + q % 2

namespace Decimal

def ratio (d : Decimal) : Nat × Nat :=
  (d.digits * Nat.pow 10 d.exponent.toNat, Nat.pow 10 (-d.exponent).toNat)

/-- All digits are written out, without an exponent. -/
def positional (d : Decimal) : Text :=
  let digits := Text.decimal d.digits
  let places := (-d.exponent).toNat
  if places = 0 then digits ++ List.replicate d.exponent.toNat '0'
  else
    let padded := List.replicate (places + 1 - digits.length) '0' ++ digits
    padded.take (padded.length - places) ++ '.' :: padded.drop (padded.length - places)

end Decimal

namespace BinaryFloat

def ratio (b : BinaryFloat) : Nat × Nat :=
  (b.mantissa * Nat.pow 2 b.exponent.toNat, Nat.pow 2 (-b.exponent).toNat)

def compare (a b : BinaryFloat) : Ordering :=
  Ord.compare (a.ratio.1 * b.ratio.2) (b.ratio.1 * a.ratio.2)

end BinaryFloat

namespace FloatNumber

def zero : FloatNumber := ⟨false, .finite ⟨0, 0⟩⟩

def isZero (x : FloatNumber) : Bool :=
  match x.magnitude with
  | .finite b => b.mantissa == 0
  | _ => false

/-- The order of numbers. The two zeros are equal. -/
def compare (x y : FloatNumber) : Ordering :=
  let size : Ordering := match x.magnitude, y.magnitude with
    | .finite a, .finite b => a.compare b
    | .finite _, _ => .lt
    | _, .finite _ => .gt
    | _, _ => .eq
  if x.isZero && y.isZero then .eq
  else match x.negative, y.negative with
    | false, false => size
    | true, true => size.swap
    | true, false => .lt
    | false, true => .gt

end FloatNumber

end ErasedBridges
