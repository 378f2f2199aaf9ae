import ErasedBridges.Config.Toml.Basic
import ErasedBridges.Decimal.Nearest

/-!
# Strings, numbers and dates of TOML
-/

namespace ErasedBridges.Toml

def isSpace (c : Char) : Bool := c == ' ' || c == '\t'

/-- Characters that comments and strings on one line may hold. -/
def isPlain (c : Char) : Bool := c == '\t' || (32 ≤ c.toNat && c.toNat != 127)

def startsWithNewline : Text → Bool
  | '\n' :: _ | '\r' :: '\n' :: _ => true
  | _ => false

def hexValue? (c : Char) : Option Nat :=
  if c.isDigit then some (c.toNat - 48)
  else if 'a' ≤ c ∧ c ≤ 'f' then some (c.toNat - 87)
  else if 'A' ≤ c ∧ c ≤ 'F' then some (c.toNat - 55)
  else none

/-- The character with a code point in hexadecimal. Surrogates are none. -/
def codePoint? (digits : List Char) : Option Char := do
  let values ← digits.mapM hexValue?
  let n := values.foldl (fun n d => 16 * n + d) 0
  if n < 0xD800 ∨ (0xDFFF < n ∧ n < 0x110000) then return Char.ofNat n else none

def shortEscape? : Char → Option Char
  | 'b' => some '\x08'
  | 't' => some '\t'
  | 'n' => some '\n'
  | 'f' => some '\x0c'
  | 'r' => some '\r'
  | '"' => some '"'
  | '\\' => some '\\'
  | _ => none

def consChar (c : Char) (r : Option (Text × Text)) : Option (Text × Text) :=
  r.map fun (s, rest) => (c :: s, rest)

def basicString : Text → Option (Text × Text)
  | [] => none
  | '"' :: s => some ([], s)
  | '\\' :: 'u' :: a :: b :: c :: d :: s => do consChar (← codePoint? [a, b, c, d]) (basicString s)
  | '\\' :: 'U' :: a :: b :: c :: d :: e :: f :: g :: h :: s => do
    consChar (← codePoint? [a, b, c, d, e, f, g, h]) (basicString s)
  | '\\' :: c :: s => do consChar (← shortEscape? c) (basicString s)
  | c :: s => if isPlain c then consChar c (basicString s) else none

def literalString : Text → Option (Text × Text)
  | [] => none
  | '\'' :: s => some ([], s)
  | c :: s => if isPlain c then consChar c (literalString s) else none

/-- Up to two quotes before the closing three belong to the string. -/
def closeLong (quote : Char) : Text → Text × Text
  | c :: d :: s =>
    if c = quote ∧ d = quote then ([quote, quote], s)
    else if c = quote then ([quote], d :: s)
    else ([], c :: d :: s)
  | c :: s => if c = quote then ([quote], s) else ([], c :: s)
  | [] => ([], [])

/-- A string in three double quotes. After a backslash at the end of a line, blanks and line breaks
are skipped. -/
def longBasicString : Bool → Text → Option (Text × Text)
  | _, [] => none
  | _, '"' :: '"' :: '"' :: s => some (closeLong '"' s)
  | skipping, '\r' :: '\n' :: s =>
    if skipping then longBasicString true s else consChar '\n' (longBasicString false s)
  | _, '\\' :: 'u' :: a :: b :: c :: d :: s => do
    consChar (← codePoint? [a, b, c, d]) (longBasicString false s)
  | _, '\\' :: 'U' :: a :: b :: c :: d :: e :: f :: g :: h :: s => do
    consChar (← codePoint? [a, b, c, d, e, f, g, h]) (longBasicString false s)
  | _, '\\' :: c :: s =>
    match shortEscape? c with
    | some e => consChar e (longBasicString false s)
    | none =>
      if startsWithNewline ((c :: s).dropWhile isSpace) then longBasicString true (c :: s)
      else none
  | skipping, c :: s =>
    if skipping && (isSpace c || c == '\n') then longBasicString true s
    else if isPlain c || c == '\n' then consChar c (longBasicString false s)
    else none

def longLiteralString : Text → Option (Text × Text)
  | [] => none
  | '\'' :: '\'' :: '\'' :: s => some (closeLong '\'' s)
  | '\r' :: '\n' :: s => consChar '\n' (longLiteralString s)
  | c :: s => if isPlain c || c == '\n' then consChar c (longLiteralString s) else none

/-- A line break directly after the opening quotes does not count. -/
def dropFirstNewline : Text → Text
  | '\n' :: s | '\r' :: '\n' :: s => s
  | s => s

def quotedString : Text → Option (Text × Text)
  | '"' :: '"' :: '"' :: s => longBasicString false (dropFirstNewline s)
  | '\'' :: '\'' :: '\'' :: s => longLiteralString (dropFirstNewline s)
  | '"' :: s => basicString s
  | '\'' :: s => literalString s
  | _ => none

/-- Digits with single underscores between them, without the underscores. -/
def digits? (isDigit : Char → Bool) : Text → Option Text
  | [] => none
  | [c] => if isDigit c then some [c] else none
  | c :: '_' :: s => if isDigit c then (digits? isDigit s).map (c :: ·) else none
  | c :: s => if isDigit c then (digits? isDigit s).map (c :: ·) else none

def value (base : Nat) (digits : Text) : Nat :=
  digits.foldl (fun n c => base * n + (hexValue? c).getD 0) 0

def sign : Text → Bool × Text
  | '-' :: s => (true, s)
  | '+' :: s => (false, s)
  | s => (false, s)

/-- Digits without a leading zero, unless that is all. -/
def wholeDigits? (s : Text) : Option Text :=
  (digits? Char.isDigit s).filter fun ds => ds.length == 1 || ds.head? != some '0'

def inRange? (n : Int) : Option Int :=
  if -0x8000000000000000 ≤ n ∧ n < 0x8000000000000000 then some n else none

def integer? (s : Text) : Option Int := do
  match s with
  | '0' :: 'x' :: s => inRange? (value 16 (← digits? (fun c => (hexValue? c).isSome) s))
  | '0' :: 'o' :: s => inRange? (value 8 (← digits? (fun c => '0' ≤ c && c ≤ '7') s))
  | '0' :: 'b' :: s => inRange? (value 2 (← digits? (fun c => c == '0' || c == '1') s))
  | s =>
    let (negative, s) := sign s
    let n : Int := value 10 (← wholeDigits? s)
    inRange? (if negative then -n else n)

/-- Fractions and exponents, infinity, and what is no number. A number too large is refused if it
is positive. -/
def float? (s : Text) : Option FloatNumber := do
  let (negative, s) := sign s
  if s = "inf".toList then return ⟨negative, .infinite⟩
  else if s = "nan".toList then return ⟨negative, .notANumber⟩
  else
    let isExponent (c : Char) : Bool := c == 'e' || c == 'E'
    let mantissa := s.takeWhile (!isExponent ·)
    let exponent := s.drop (mantissa.length + 1)
    let hasExponent := mantissa.length < s.length
    let (whole, fraction) ← match Text.cut? ['.'] mantissa with
      | some (whole, fraction) => do pure (whole, ← digits? Char.isDigit fraction)
      | none => if hasExponent then some (mantissa, []) else none
    let whole ← wholeDigits? whole
    let (negativeExponent, exponentDigits) := sign exponent
    let e ← if hasExponent then (digits? Char.isDigit exponentDigits).map (value 10) else some 0
    let e : Int := if negativeExponent then -e else e
    let d : Decimal := ⟨value 10 (whole ++ fraction), e - fraction.length⟩
    let x := FloatFormat.double.ofDecimal negative d
    if x = ⟨false, .infinite⟩ then none else return x

def field? (length low high : Nat) (s : Text) : Option Nat :=
  if s.length = length ∧ s.all Char.isDigit ∧ low ≤ value 10 s ∧ value 10 s ≤ high then
    some (value 10 s)
  else none

def daysIn (year month : Nat) : Nat :=
  if month = 2 then
    if year % 4 = 0 ∧ (year % 100 ≠ 0 ∨ year % 400 = 0) then 29 else 28
  else if month = 4 ∨ month = 6 ∨ month = 9 ∨ month = 11 then 30
  else 31

def isDate (s : Text) : Bool :=
  match Text.split (· == '-') s with
  | [year, month, day] => (do
      let y ← field? 4 0 9999 year
      let m ← field? 2 1 12 month
      field? 2 1 (daysIn y m) day).isSome
  | _ => false

def isTime (s : Text) : Bool :=
  let (clock, fraction) := (Text.cut? ['.'] s).getD (s, ['0'])
  match Text.split (· == ':') clock with
  | [h, m, sec] =>
    (field? 2 0 23 h).isSome && (field? 2 0 59 m).isSome && (field? 2 0 60 sec).isSome &&
      !fraction.isEmpty && fraction.all Char.isDigit
  | _ => false

def isOffsetTime (s : Text) : Bool :=
  match s.getLast? with
  | some 'Z' | some 'z' => isTime s.dropLast
  | _ =>
    isTime s ||
      (let offset := s.drop (s.length - 6)
       match offset with
       | c :: rest =>
         (c == '+' || c == '-') && isTime (s.take (s.length - 6)) &&
           isTime (rest ++ ":00".toList)
       | [] => false)

def isDateTime (s : Text) : Bool :=
  isDate s || isTime s ||
    (isDate (s.take 10) && isOffsetTime (s.drop 11) &&
      (s[10]?.any fun c => c == 'T' || c == 't' || c == ' '))

/-- Characters that end a value without quotes or brackets. -/
def endsToken (c : Char) : Bool :=
  isSpace c || c == '\n' || c == '\r' || c == ',' || c == ']' || c == '\x7d' || c == '#'

def ofToken? (s : Text) : Option Toml :=
  if s = "true".toList then some (.boolean true)
  else if s = "false".toList then some (.boolean false)
  else if isDateTime s then some .dateTime
  else match integer? s with
    | some n => some (.integer n)
    | none => (float? s).map .float

/-- A blank may stand between a date and a time. -/
def token (s : Text) : Option (Toml × Text) :=
  let first := s.takeWhile (!endsToken ·)
  let rest := s.drop first.length
  let longer := first ++ rest.take 1 ++ (rest.drop 1).takeWhile (!endsToken ·)
  if isDate first && isDateTime longer then some (.dateTime, s.drop longer.length)
  else (ofToken? first).map (·, rest)

end ErasedBridges.Toml
