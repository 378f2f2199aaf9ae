import ErasedBridges.Decimal.Nearest

/-!
# Numbers at the start of a text

Blanks and a sign may stand before a number. Digits after a zero are octal, and after `0x`
hexadecimal. A number out of range counts as the end of the range that it is beyond.
-/

namespace ErasedBridges.Shell

structure Leading (α : Type) where
  value : α
  /-- Whether there are digits. -/
  given : Bool
  beyond : Bool
  rest : Text

def isSpace (c : Char) : Bool := c == ' ' || (9 ≤ c.toNat && c.toNat ≤ 13)

def octalDigit? (c : Char) : Option Nat :=
  if '0' ≤ c ∧ c ≤ '7' then some (c.toNat - 48) else none

def hexDigit? (c : Char) : Option Nat :=
  if c.isDigit then some (c.toNat - 48)
  else if 'a' ≤ c.toLower ∧ c.toLower ≤ 'f' then some (c.toLower.toNat - 87)
  else none

/-- The value of the digits at the start, how many they are, and what follows them. -/
def digitsFrom (base : Nat) (digit? : Char → Option Nat) (s : Text) : Nat × Nat × Text :=
  let digits := s.takeWhile fun c => (digit? c).isSome
  (digits.foldl (fun n c => base * n + (digit? c).getD 0) 0, digits.length, s.drop digits.length)

def anyBase (s : Text) : Leading Nat :=
  let decimal := digitsFrom 10 (fun c => if c.isDigit then some (c.toNat - 48) else none) s
  let hex := digitsFrom 16 hexDigit? (s.drop 2)
  match s with
  | '0' :: x :: _ =>
    if x.toLower = 'x' ∧ hex.2.1 ≠ 0 then ⟨hex.1, true, false, hex.2.2⟩
    else
      let (value, _, rest) := digitsFrom 8 octalDigit? s
      ⟨value, true, false, rest⟩
  | _ => ⟨decimal.1, decimal.2.1 != 0, false, decimal.2.2⟩

def baseTen (s : Text) : Leading Nat :=
  let (value, length, rest) := digitsFrom 10 hexDigit? (s.takeWhile Char.isDigit)
  ⟨value, length != 0, false, rest ++ s.dropWhile Char.isDigit⟩

def greatest : Int := 0x7FFFFFFFFFFFFFFF

def least : Int := -0x8000000000000000

def signedFrom (digits : Text → Leading Nat) (s : Text) : Leading Int :=
  let (negative, unsigned) := FloatNumber.takeSign (s.dropWhile isSpace)
  let n := digits unsigned
  let value : Int := if negative then -n.value else n.value
  if !n.given then ⟨0, false, false, s⟩
  else if value < least then ⟨least, true, true, n.rest⟩
  else if greatest < value then ⟨greatest, true, true, n.rest⟩
  else ⟨value, true, false, n.rest⟩

def wordSize : Nat := 0x10000000000000000

/-- A number of sixty-four bits without a sign. A number after a minus sign wraps around. -/
def unsignedFrom (s : Text) : Leading Nat :=
  let (negative, unsigned) := FloatNumber.takeSign (s.dropWhile isSpace)
  let n := anyBase unsigned
  if !n.given then ⟨0, false, false, s⟩
  else if wordSize ≤ n.value then ⟨wordSize - 1, true, true, n.rest⟩
  else ⟨if negative then (wordSize - n.value) % wordSize else n.value, true, false, n.rest⟩

/-- The number that a whole text is; blanks may stand around it. -/
def wholeNumber? (digits : Text → Leading Nat) (s : Text) : Option Int :=
  let n := signedFrom digits s
  if n.given && !n.beyond && n.rest.all isSpace then some n.value else none

def dropWord? (word : String) (s : Text) : Option Text :=
  if (s.take word.length).map Char.toLower = word.toList then some (s.drop word.length) else none

/-- The exponent after a letter, if there are digits; what follows it otherwise stays. -/
def exponentFrom (letter : Char) (s : Text) : Int × Text :=
  match s with
  | c :: rest =>
    let (negative, digits) := FloatNumber.takeSign rest
    let n := baseTen digits
    if c.toLower = letter ∧ n.given then
      ((if negative then -n.value else n.value : Int), n.rest)
    else (0, s)
  | [] => (0, [])

/-- Digits with at most one point among them: their value, how many stand after the point, whether
there are any, and what follows them. -/
def pointedDigits (base : Nat) (s : Text) : Nat × Nat × Bool × Text :=
  let digit? (c : Char) : Option Nat := (hexDigit? c).filter (· < base)
  let (whole, before, rest) := digitsFrom base digit? s
  match rest with
  | '.' :: fraction =>
    let (value, after, rest') := digitsFrom base digit? fraction
    if before + after = 0 then (0, 0, false, s)
    else (whole * Nat.pow base after + value, after, true, rest')
  | _ => (whole, 0, before != 0, rest)

/-- The quotient that digits with a point and an exponent stand for, as a number of a format. It is
out of range if it is too large, or too small to be told exactly. -/
def floatOf (f : FloatFormat) (negative : Bool) (n d : Nat) : FloatNumber × Bool :=
  match f.nearest? n d with
  | none => (⟨negative, .infinite⟩, true)
  | some b =>
    let tiny := b.mantissa < Nat.pow 2 (f.bits - 1) &&
      b.ratio.1 * d != n * b.ratio.2
    (⟨negative, .finite b⟩, tiny)

/-- A power with an exponent that is cut off where it is out of any range. -/
def clampedPower (base : Nat) (e : Int) : Nat × Nat :=
  let limit : Int := 4 * FloatFormat.mostPlaces
  let e := max (-limit) (min limit e)
  (Nat.pow base e.toNat, Nat.pow base (-e).toNat)

def floatFrom (f : FloatFormat) (s : Text) : Leading FloatNumber :=
  let (negative, s') := FloatNumber.takeSign (s.dropWhile isSpace)
  let hex : Option (Leading FloatNumber) := match s' with
    | '0' :: x :: t =>
      let (value, places, given, rest) := pointedDigits 16 t
      if x.toLower = 'x' ∧ given then
        let (e, rest) := exponentFrom 'p' rest
        let (n, d) := clampedPower 2 (e - 4 * places)
        let (number, beyond) := floatOf f negative (value * n) d
        some ⟨number, true, beyond, rest⟩
      else none
    | _ => none
  match hex, dropWord? "infinity" s', dropWord? "inf" s', dropWord? "nan" s' with
  | some n, _, _, _ => n
  | none, some rest, _, _ | none, none, some rest, _ =>
    ⟨⟨negative, .infinite⟩, true, false, rest⟩
  | none, none, none, some rest =>
    let payload := rest.drop 1 |>.dropWhile fun c => c.isAlphanum || c == '_'
    let rest := if rest.head? = some '(' ∧ payload.head? = some ')' then payload.drop 1 else rest
    ⟨⟨negative, .notANumber⟩, true, false, rest⟩
  | none, none, none, none =>
    let (value, places, given, rest) := pointedDigits 10 s'
    if !given then ⟨.zero, false, false, s⟩
    else
      let (e, rest) := exponentFrom 'e' rest
      let length := (Text.decimal value).length
      let e := e - places
      if value = 0 then ⟨⟨negative, .finite ⟨0, f.leastExponent⟩⟩, true, false, rest⟩
      else
        let e := if FloatFormat.mostPlaces < e + length then FloatFormat.mostPlaces
          else if e + length < -FloatFormat.mostPlaces then -FloatFormat.mostPlaces - length
          else e
        let (n, d) := (Decimal.mk value e).ratio
        let (number, beyond) := floatOf f negative n d
        ⟨number, true, beyond, rest⟩

end ErasedBridges.Shell
