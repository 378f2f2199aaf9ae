import ErasedBridges.Decimal.Basic

/-!
# The shortest decimal of a double

Of the decimals that round to a double, the one with the fewest digits is taken, and of two such
the nearer one. It is found in exact arithmetic.
-/

namespace ErasedBridges.Decimal

/-- The sides of a comparison between `d` and `quarters * 2 ^ (b.exponent - 2)`, as naturals. -/
def sides (b : BinaryFloat) (d : Decimal) (quarters : Nat) : Nat × Nat :=
  let e := b.exponent - 2
  (d.digits * Nat.pow 10 d.exponent.toNat * Nat.pow 2 (-e).toNat,
    quarters * Nat.pow 10 (-d.exponent).toNat * Nat.pow 2 e.toNat)

/-- Whether a decimal rounds to the double. The interval is half as wide below a power of two,
and holds its ends if the mantissa is even. -/
def roundsTo (b : BinaryFloat) (d : Decimal) : Bool :=
  let below := if b.mantissa = 0x10000000000000 ∧ -1074 < b.exponent then 1 else 2
  let (low, lowEnd) := sides b d (4 * b.mantissa - below)
  let (high, highEnd) := sides b d (4 * b.mantissa + 2)
  if b.mantissa % 2 = 0 then lowEnd ≤ low && high ≤ highEnd else lowEnd < low && high < highEnd

def neighbours (b : BinaryFloat) (k : Int) : Decimal × Decimal :=
  let (unit, value) := sides b ⟨1, k⟩ (4 * b.mantissa)
  (⟨value / unit, k⟩, ⟨value / unit + 1, k⟩)

def distance (b : BinaryFloat) (d : Decimal) : Nat :=
  let (x, y) := sides b d (4 * b.mantissa)
  (x - y) + (y - x)

def onGrid? (b : BinaryFloat) (k : Int) : Option Decimal :=
  let (low, high) := neighbours b k
  match roundsTo b low && low.digits != 0, roundsTo b high with
  | true, true => some (if distance b low ≤ distance b high then low else high)
  | true, false => some low
  | false, true => some high
  | false, false => none

/-- The coarsest grid with a hit has the fewest digits. -/
def shortest (b : BinaryFloat) : Decimal :=
  ((List.range 660).findSome? fun i : Nat => onGrid? b (310 - Int.ofNat i)).getD ⟨0, 0⟩

def shown (x : FloatNumber) : Text :=
  let sign := if x.negative then ['-'] else []
  match x.magnitude with
  | .notANumber => "NaN".toList
  | .infinite => sign ++ "inf".toList
  | .finite b => sign ++ if b.mantissa = 0 then ['0'] else (shortest b).positional

def shownWithPoint (x : FloatNumber) : Text :=
  match x.magnitude with
  | .finite _ => if (shown x).elem '.' then shown x else shown x ++ ".0".toList
  | _ => shown x

end ErasedBridges.Decimal
