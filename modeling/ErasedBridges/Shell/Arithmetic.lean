import ErasedBridges.Shell.Number
import ErasedBridges.Shell.Syntax

/-!
# Arithmetic in scripts

Expressions over integers of sixty-four bits, which wrap around. Every operand is read, but one
that does not count, as after a false condition, is not computed: it divides nothing and sets
nothing. A variable without a value counts as zero.
-/

namespace ErasedBridges.Shell

inductive BinaryOperator where
  | times | dividedBy | modulo
  | plus | minus
  | shiftLeft | shiftRight
  | less | lessEqual | greater | greaterEqual
  | equal | unequal
  | bitAnd
  | bitXor
  | bitOr
deriving DecidableEq, Repr

inductive ArithmeticFault where
  | divisionByZero
  /-- A quotient that sixty-four bits do not hold stops the process. -/
  | quotientTooLarge
  /-- What should have come. -/
  | expecting (what : String)
  | notNumber (value : Text)
  | readOnly (name : Text)
deriving DecidableEq, Repr

namespace BinaryOperator

/-- Operators of a lower rank are taken first. -/
def rank : BinaryOperator → Nat
  | times | dividedBy | modulo => 0
  | plus | minus => 1
  | shiftLeft | shiftRight => 2
  | less | lessEqual | greater | greaterEqual => 3
  | equal | unequal => 4
  | bitAnd => 5
  | bitXor => 6
  | bitOr => 7

def ranks : Nat := 8

def truth (p : Bool) : Int64 := if p then 1 else 0

/-- Division drops the fraction, and the remainder has the sign of the dividend. -/
def apply (o : BinaryOperator) (a b : Int64) : Except ArithmeticFault Int64 :=
  let divided (f : Int64 → Int64 → Int64) : Except ArithmeticFault Int64 :=
    if b = 0 then .error .divisionByZero
    else if a = Int64.minValue ∧ b = -1 then .error .quotientTooLarge
    else .ok (f a b)
  match o with
  | times => .ok (a * b)
  | dividedBy => divided (· / ·)
  | modulo => divided (· % ·)
  | plus => .ok (a + b)
  | minus => .ok (a - b)
  | shiftLeft => .ok (a <<< b)
  | shiftRight => .ok (a >>> b)
  | less => .ok (truth (a < b))
  | lessEqual => .ok (truth (a ≤ b))
  | greater => .ok (truth (b < a))
  | greaterEqual => .ok (truth (b ≤ a))
  | equal => .ok (truth (a == b))
  | unequal => .ok (truth (a != b))
  | bitAnd => .ok (a &&& b)
  | bitXor => .ok (a ^^^ b)
  | bitOr => .ok (a ||| b)

end BinaryOperator

inductive ArithmeticToken where
  | number (n : Int64)
  | name (s : Text)
  | binary (o : BinaryOperator)
  /-- Sets a variable, to the result of an operator on it if there is one. -/
  | assign (o : Option BinaryOperator)
  | both | either | not | complement | question | colon | opening | closing
  /-- A character that means nothing. -/
  | other
deriving DecidableEq, Repr

namespace ArithmeticToken

def spellings : List (Text × ArithmeticToken) :=
  let settings : List (String × BinaryOperator) :=
    [("<<", .shiftLeft), (">>", .shiftRight), ("*", .times), ("/", .dividedBy), ("%", .modulo),
      ("+", .plus), ("-", .minus), ("&", .bitAnd), ("^", .bitXor), ("|", .bitOr)]
  settings.map (fun (s, o) => (s.toList ++ ['='], .assign (some o))) ++
    ([("==", binary .equal), ("!=", binary .unequal), ("<=", binary .lessEqual),
      (">=", binary .greaterEqual), ("&&", both), ("||", either), ("<<", binary .shiftLeft),
      (">>", binary .shiftRight), ("=", assign none), ("<", binary .less), (">", binary .greater),
      ("*", binary .times), ("/", binary .dividedBy), ("%", binary .modulo), ("+", binary .plus),
      ("-", binary .minus), ("&", binary .bitAnd), ("^", binary .bitXor), ("|", binary .bitOr),
      ("!", not), ("~", complement), ("?", question), (":", colon), ("(", opening),
      (")", closing)].map fun (s, t) => (s.toList, t))

def readOne (c : Char) (s : Text) : ArithmeticToken × Text :=
  if c.isDigit then
    let n := signedFrom anyBase (c :: s)
    (number (Int64.ofInt n.value), n.rest)
  else if isNameStart c then
    let name := (c :: s).takeWhile isNameChar
    (.name name, (c :: s).drop name.length)
  else
    let found := spellings.findSome? fun (spelling, t) =>
      (spelling.isPrefixOf? (c :: s)).map fun rest => (t, rest)
    found.getD (other, s)

def readAll : Nat → Text → List ArithmeticToken
  | 0, _ | _, [] => []
  | fuel + 1, c :: s =>
    if c = ' ' ∨ c = '\t' ∨ c = '\n' then readAll fuel s
    else
      let (t, rest) := readOne c s
      t :: readAll fuel rest

end ArithmeticToken

/-- What is left of an expression, and what it has set, the latest first. -/
structure Calculation where
  tokens : List ArithmeticToken
  assigned : List (Text × Int64)

abbrev Calculating := ExceptT ArithmeticFault (StateM Calculation)

structure Surroundings where
  value? : Text → Option Text
  isReadOnly : Text → Bool

namespace Calculating

def peek? : Calculating (Option ArithmeticToken) := return (← get).tokens.head?

def skip : Calculating Unit := modify fun c => { c with tokens := c.tokens.tail }

def accept (t : ArithmeticToken) : Calculating Bool := do
  if (← peek?) == some t then
    skip
    return true
  else return false

def valueOf (env : Surroundings) (name : Text) : Calculating Int64 := do
  match (← get).assigned.lookup name with
  | some n => return n
  | none =>
    let value := (env.value? name).getD []
    if value.all isSpace then return 0
    match wholeNumber? anyBase value with
    | some n => return Int64.ofInt n
    | none => throw (.notNumber value)

def assign (env : Surroundings) (name : Text) (n : Int64) : Calculating Int64 := do
  if env.isReadOnly name then throw (.readOnly name)
  modify fun c => { c with assigned := (name, n) :: c.assigned }
  return n

mutual

/-- An operand, computed if `counts` says so. -/
def operand (env : Surroundings) : Nat → Bool → Calculating Int64
  | 0, _ => throw (.expecting "primary")
  | fuel + 1, counts => do
    match ← peek? with
    | some (.number n) =>
      skip
      return n
    | some (.name s) =>
      skip
      if counts then valueOf env s else return 0
    | some (.binary .plus) =>
      skip
      operand env fuel counts
    | some (.binary .minus) =>
      skip
      return -(← operand env fuel counts)
    | some .not =>
      skip
      return BinaryOperator.truth ((← operand env fuel counts) == 0)
    | some .complement =>
      skip
      return ~~~(← operand env fuel counts)
    | some .opening =>
      skip
      let a ← setting env fuel counts
      unless ← accept .closing do throw (.expecting "')'")
      return a
    | _ => throw (.expecting "primary")

def operations (env : Surroundings) : Nat → Bool → Nat → Int64 → Calculating Int64
  | 0, _, _, _ => throw (.expecting "primary")
  | fuel + 1, counts, rank, a => do
    match ← peek? with
    | some (.binary o) =>
      if o.rank < rank then
        skip
        let b ← operand env fuel counts
        let b ← operations env fuel counts o.rank b
        let c ← if counts then o.apply a b else pure b
        operations env fuel counts rank c
      else return a
    | _ => return a

def conjunction (env : Surroundings) : Nat → Bool → Calculating Int64
  | 0, _ => throw (.expecting "primary")
  | fuel + 1, counts => do
    let a ← operand env fuel counts
    let a ← operations env fuel counts BinaryOperator.ranks a
    if ← accept .both then
      let b ← conjunction env fuel (counts && a != 0)
      return BinaryOperator.truth (a != 0 && b != 0)
    else return a

def disjunction (env : Surroundings) : Nat → Bool → Calculating Int64
  | 0, _ => throw (.expecting "primary")
  | fuel + 1, counts => do
    let a ← conjunction env fuel counts
    if ← accept .either then
      let b ← disjunction env fuel (counts && a == 0)
      return BinaryOperator.truth (a != 0 || b != 0)
    else return a

def condition (env : Surroundings) : Nat → Bool → Calculating Int64
  | 0, _ => throw (.expecting "primary")
  | fuel + 1, counts => do
    let a ← disjunction env fuel counts
    if ← accept .question then
      let b ← setting env fuel (counts && a != 0)
      unless ← accept .colon do throw (.expecting "':'")
      let c ← condition env fuel (counts && a == 0)
      return if a != 0 then b else c
    else return a

def setting (env : Surroundings) : Nat → Bool → Calculating Int64
  | 0, _ => throw (.expecting "primary")
  | fuel + 1, counts => do
    match (← get).tokens with
    | .name s :: .assign o :: rest =>
      modify ({ · with tokens := rest })
      let a ← setting env fuel counts
      if !counts then return a
      match o with
      | none => assign env s a
      | some o => assign env s (← o.apply (← valueOf env s) a)
    | _ => condition env fuel counts

end

def whole (env : Surroundings) : Calculating Int64 := do
  let a ← setting env (8 * (← get).tokens.length + 8) true
  if (← peek?).isSome then throw (.expecting "EOF")
  return a

end Calculating

def evaluate (env : Surroundings) (s : Text) :
    Except ArithmeticFault Int64 × List (Text × Int64) :=
  let tokens := ArithmeticToken.readAll (s.length + 1) s
  let (result, c) := (Calculating.whole env).run ⟨tokens, []⟩
  (result, c.assigned.reverse)

namespace ArithmeticFault

def message (expression : Text) : ArithmeticFault → Text
  | notNumber value => "Illegal number: ".toList ++ value
  | readOnly name => name ++ ": is read only".toList
  | divisionByZero | quotientTooLarge => about "division by zero"
  | expecting what => about ("expecting " ++ what)
where
  about (words : String) : Text :=
    "arithmetic expression: ".toList ++ words.toList ++ ": \"".toList ++ expression ++ ['"']

end ArithmeticFault

def signedText (n : Int64) : Text := Text.signedDecimal n.toInt

end ErasedBridges.Shell
