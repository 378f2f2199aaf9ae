import ErasedBridges.Decimal.Basic

/-!
# The nearest floating number

A format has so many bits, and a least and a greatest exponent. `nearest?` takes the number of a
format that is nearest to a quotient, and of two such the one with an even mantissa. It is done in
exact arithmetic, so there is no other rounding.
-/

namespace ErasedBridges

structure FloatFormat where
  bits : Nat
  leastExponent : Int
  greatestExponent : Int

namespace FloatFormat

/-- Sixty-four bits, of which fifty-two are written of the mantissa. -/
def double : FloatFormat := ⟨53, -1074, 971⟩

/-- Eighty bits, with all sixty-four of the mantissa written. -/
def extended : FloatFormat := ⟨64, -16445, 16320⟩

/-- The exponent that leaves as many bits before the point as the format has, or the least one. -/
def exponentFor (f : FloatFormat) (n d : Nat) : Int :=
  let e := Int.ofNat n.log2 - Int.ofNat d.log2 - Int.ofNat f.bits
  let whole := n * Nat.pow 2 (-e).toNat / (d * Nat.pow 2 e.toNat)
  max f.leastExponent (if Nat.pow 2 f.bits ≤ whole then e + 1 else e)

/-- The number nearest to `n / d`, unless it is too large for the format. -/
def nearest? (f : FloatFormat) (n d : Nat) : Option BinaryFloat :=
  if n = 0 then some ⟨0, f.leastExponent⟩
  else
    let e := f.exponentFor n d
    let m := roundDiv (n * Nat.pow 2 (-e).toNat) (d * Nat.pow 2 e.toNat)
    let b : BinaryFloat := if m = Nat.pow 2 f.bits then ⟨Nat.pow 2 (f.bits - 1), e + 1⟩
      else ⟨m, e⟩
    if b.exponent ≤ f.greatestExponent then some b else none

/-- No format has numbers with more than so many digits before or after the point. -/
def mostPlaces : Int := 6000

/-- The number nearest to a decimal; what is too large is infinite. -/
def ofDecimal (f : FloatFormat) (negative : Bool) (d : Decimal) : FloatNumber :=
  let places := d.exponent + Int.ofNat (Text.decimal d.digits).length
  if d.digits = 0 ∨ places < -mostPlaces then ⟨negative, .finite ⟨0, f.leastExponent⟩⟩
  else if mostPlaces < places then ⟨negative, .infinite⟩
  else match f.nearest? d.ratio.1 d.ratio.2 with
    | some b => ⟨negative, .finite b⟩
    | none => ⟨negative, .infinite⟩

end FloatFormat

namespace FloatNumber

def takeSign : Text → Bool × Text
  | '-' :: s => (true, s)
  | '+' :: s => (false, s)
  | s => (false, s)

def readDecimal? (s : Text) : Option Decimal := do
  let whole := s.takeWhile Char.isDigit
  let rest := s.drop whole.length
  let (fraction, rest) := match rest with
    | '.' :: rest => (rest.takeWhile Char.isDigit, rest.dropWhile Char.isDigit)
    | _ => ([], rest)
  if whole.isEmpty && fraction.isEmpty then failure
  let digits := Text.digitsValue (whole ++ fraction)
  match rest with
  | [] => return ⟨digits, -Int.ofNat fraction.length⟩
  | e :: rest =>
    let (negative, exponent) := takeSign rest
    if e.toLower != 'e' || exponent.isEmpty || !exponent.all Char.isDigit then failure
    let value := Int.ofNat (Text.digitsValue exponent)
    return ⟨digits, (if negative then -value else value) - Int.ofNat fraction.length⟩

def read? (s : Text) : Option FloatNumber :=
  let (negative, s) := takeSign s
  let word := s.map Char.toLower
  if word = "inf".toList ∨ word = "infinity".toList then some ⟨negative, .infinite⟩
  else if word = "nan".toList then some ⟨negative, .notANumber⟩
  else (readDecimal? s).map (FloatFormat.double.ofDecimal negative)

end FloatNumber
end ErasedBridges
