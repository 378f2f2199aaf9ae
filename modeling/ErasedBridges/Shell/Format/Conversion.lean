import ErasedBridges.Decimal.Nearest
import ErasedBridges.Decimal.Places
import ErasedBridges.Shell.Number

/-!
# Conversions of a format

A conversion writes text, a whole number or a floating number, with the width, the precision and
the flags that stand before its letter. Zeros of the width go between the sign and the digits.
-/

namespace ErasedBridges.Shell

structure Conversion where
  flags : Text
  width : Nat
  precision : Option Nat
  letter : Char
deriving DecidableEq, Repr

namespace Conversion

def has (c : Conversion) (flag : Char) : Bool := c.flags.elem flag

def isUpper (c : Conversion) : Bool := c.letter.isUpper

def cased (c : Conversion) (s : Text) : Text := if c.isUpper then s.map Char.toUpper else s

def pad (c : Conversion) (s : Text) : Text :=
  let fill := List.replicate (c.width - s.length) ' '
  if c.has '-' then s ++ fill else fill ++ s

def ofText (c : Conversion) (s : Text) : Text :=
  c.pad (match c.precision with
    | some n => s.take n
    | none => s)

def sign (c : Conversion) (negative : Bool) : Text :=
  if negative then ['-'] else if c.has '+' then ['+'] else if c.has ' ' then [' '] else []

/-- Digits after what stands before them; zeros fill the width if `zeros` is set. -/
def framed (c : Conversion) (zeros : Bool) (before digits : Text) : Text :=
  let fill := if zeros && c.has '0' && !c.has '-' then
      List.replicate (c.width - (before.length + digits.length)) '0'
    else []
  c.pad (before ++ fill ++ digits)

/-- At least as many digits as the precision says. Zero has no digit if that is none. -/
def wholeDigits (c : Conversion) (base n : Nat) : Text :=
  let digits := if n = 0 ∧ c.precision = some 0 then [] else Nat.toDigits base n
  List.replicate (c.precision.getD 1 - digits.length) '0' ++ digits

def ofInt (c : Conversion) (n : Int) : Text :=
  c.framed c.precision.isNone (c.sign (n < 0)) (c.wholeDigits 10 n.natAbs)

def ofNat (c : Conversion) (n : Nat) : Text :=
  match c.letter.toLower with
  | 'o' =>
    let digits := c.wholeDigits 8 n
    let digits := if c.has '#' && digits.head? != some '0' then '0' :: digits else digits
    c.framed c.precision.isNone [] digits
  | 'x' =>
    let before := if c.has '#' && n != 0 then "0x".toList else []
    c.framed c.precision.isNone (c.cased before) (c.cased (c.wholeDigits 16 n))
  | _ => c.framed c.precision.isNone [] (c.wholeDigits 10 n)

/-- The digits before and after a point, which is left out if there are none after it. -/
def pointed (c : Conversion) (whole fraction : Text) : Text :=
  if fraction.isEmpty && !c.has '#' then whole else whole ++ '.' :: fraction

def trimmed (c : Conversion) (fraction : Text) : Text :=
  if c.has '#' then fraction else (fraction.reverse.dropWhile (· == '0')).reverse

def splitDigits (d : Decimal) : Text × Text :=
  let places := (-d.exponent).toNat
  let digits := Text.decimal d.digits ++ List.replicate d.exponent.toNat '0'
  let digits := List.replicate (places + 1 - digits.length) '0' ++ digits
  digits.splitAt (digits.length - places)

def exponentText (letter : Char) (least : Nat) (e : Int) : Text :=
  let digits := Text.decimal e.natAbs
  letter :: (if e < 0 then '-' else '+') :: List.replicate (least - digits.length) '0' ++ digits

def scientific (c : Conversion) (b : BinaryFloat) (places : Nat) (trims : Bool) : Text :=
  let d := b.toDigits places
  let digits := Text.decimal d.digits
  let digits := digits ++ List.replicate (places + 1 - digits.length) '0'
  let fraction := digits.drop 1
  let e := if b.mantissa = 0 then 0 else d.exponent + places
  c.pointed (digits.take 1) (if trims then c.trimmed fraction else fraction) ++
    exponentText 'e' 2 e

def hexadecimal (f : FloatFormat) (c : Conversion) (b : BinaryFloat) : Text :=
  let length := (f.bits - 1) / 4
  let places := c.precision.getD length
  let m := b.toHex places length
  let digits := Nat.toDigits 16 m
  let digits := List.replicate (places + 1 - digits.length) '0' ++ digits
  let fraction := digits.drop (digits.length - places)
  let e := if b.mantissa = 0 then 0 else b.exponent + 4 * length
  c.pointed (digits.take (digits.length - places))
    (if c.precision.isNone then c.trimmed fraction else fraction) ++ exponentText 'p' 1 e

def magnitude (f : FloatFormat) (c : Conversion) (b : BinaryFloat) : Text :=
  let precision := c.precision.getD 6
  match c.letter.toLower with
  | 'a' => hexadecimal f c b
  | 'e' => c.scientific b precision false
  | 'f' =>
    let (whole, fraction) := splitDigits (b.toPlaces precision)
    c.pointed whole fraction
  | _ =>
    let most := max precision 1
    let e := if b.mantissa = 0 then 0 else (b.toDigits (most - 1)).exponent + (most - 1 : Nat)
    if -4 ≤ e ∧ e < most then
      let (whole, fraction) := splitDigits (b.toPlaces (most - 1 - e).toNat)
      c.pointed whole (c.trimmed fraction)
    else c.scientific b (most - 1) true

def ofFloat (f : FloatFormat) (c : Conversion) (x : FloatNumber) : Text :=
  let sign := c.sign x.negative
  match x.magnitude with
  | .infinite => c.framed false sign (c.cased "inf".toList)
  | .notANumber => c.framed false sign (c.cased "nan".toList)
  | .finite b =>
    if c.letter.toLower = 'a' then
      c.framed true (sign ++ c.cased "0x".toList) (c.cased (magnitude f c b))
    else c.framed true sign (c.cased (magnitude f c b))

end Conversion
end ErasedBridges.Shell
