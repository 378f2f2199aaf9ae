import ErasedBridges.Shell.Number
import ErasedBridges.Shell.Utility.Basic

/-!
# Conditions

The conditions of `test` and of brackets. An argument that could be an operator is one only where
there is something for it to work on. Two spellings of the command word their complaints
differently: the builtin of a shell and the program.
-/

namespace ErasedBridges.Shell

open Running

inductive ConditionFault where
  | notInteger (argument : Text)
  /-- The last argument that could be made sense of, and the one after it. -/
  | unexpected (last next : Text)
  | argumentMissing (operator : Text)
  | parenthesisMissing
  | unclosed
deriving DecidableEq, Repr

namespace ConditionFault

def builtinMessage : ConditionFault → Text
  | notInteger a => "Illegal number: ".toList ++ a
  | unexpected a _ => (if a.isEmpty then [] else a ++ ": ".toList) ++ "unexpected operator".toList
  | argumentMissing operator => operator ++ ": argument expected".toList
  | parenthesisMissing => "closing paren expected".toList
  | unclosed => "missing ]".toList

def programMessage (args : List Text) : ConditionFault → Text
  | notInteger a => "invalid integer ".toList ++ quotedArgument a
  | unexpected _ next =>
    match args with
    | [a, b] =>
      if a.head? == some '-' then quotedArgument a ++ ": unary operator expected".toList
      else "missing argument after ".toList ++ quotedArgument b
    | [_, operator, _] => quotedArgument operator ++ ": binary operator expected".toList
    | _ => "extra argument ".toList ++ quotedArgument next
  | argumentMissing operator => "missing argument after ".toList ++ quotedArgument operator
  | parenthesisMissing => "')' expected".toList
  | unclosed => "missing ']'".toList

end ConditionFault

inductive ConditionToken where
  | operand
  | unary (letter : Char)
  | binary (operator : Text)
  | not | both | either | opening | closing
  | ending
deriving DecidableEq, Repr

namespace ConditionToken

def binaryOperators : List Text :=
  ["=", "!=", "<", ">", "-eq", "-ne", "-gt", "-ge", "-lt", "-le", "-nt", "-ot", "-ef"].map
    String.toList

def ofText? (s : Text) : Option ConditionToken :=
  if binaryOperators.elem s then some (binary s)
  else match s with
    | ['!'] => some not
    | ['('] => some opening
    | [')'] => some closing
    | ['-', 'a'] => some both
    | ['-', 'o'] => some either
    | ['-', letter] =>
      if "rwxefdcbpugkstznhOGLS".toList.elem letter then some (unary letter) else none
    | _ => none

def isBinary (s : Text) : Bool := binaryOperators.elem s

def ofArguments : List Text → ConditionToken
  | [] => ending
  | s :: rest =>
    match ofText? s with
    | none => operand
    | some (unary letter) =>
      -- A letter with nothing to work on is an operand, and so is one before an operator.
      match rest with
      | [] => operand
      | [_] => unary letter
      | next :: _ => if isBinary next then operand else unary letter
    | some opening => if rest.isEmpty then operand else opening
    | some t => t

end ConditionToken

def holdsOf (letter : Char) (s : Text) : Running Bool := do
  let kind ← kindOf s
  match letter, kind with
  | 'n', _ => return !s.isEmpty
  | 'z', _ => return s.isEmpty
  | 'e', .ok _ | 'r', .ok _ | 'w', .ok _ | 'O', .ok _ | 'G', .ok _ => return true
  | 'f', .ok (.file ..) | 'd', .ok (.directory _) | 'x', .ok (.directory _) => return true
  | 's', .ok (.file _ content) => return !content.isEmpty
  | 's', .ok (.directory _) | 'c', .ok .device => return true
  | _, _ => return false

def holdsBetween (a operator b : Text) : Running (Except ConditionFault Bool) := do
  let numbers (f : Int → Int → Bool) : Except ConditionFault Bool :=
    match wholeNumber? baseTen a, wholeNumber? baseTen b with
    | some x, some y => .ok (f x y)
    | none, _ => .error (.notInteger a)
    | _, none => .error (.notInteger b)
  match String.ofList operator with
  | "=" => return .ok (a == b)
  | "!=" => return .ok (a != b)
  | "<" => return .ok (decide (a < b))
  | ">" => return .ok (decide (b < a))
  | "-eq" => return numbers (· == ·)
  | "-ne" => return numbers (· != ·)
  | "-lt" => return numbers (· < ·)
  | "-le" => return numbers (· ≤ ·)
  | "-gt" => return numbers (fun x y => y < x)
  | "-ge" => return numbers (fun x y => y ≤ x)
  | "-ef" =>
    let path? (s : Text) : Running (Option (List Text)) := do
      match ← kindOf s with
      | .ok (.file p _) | .ok (.directory p) => return some p
      | _ => return none
    let p ← path? a
    return .ok (p.isSome && p == (← path? b))
  | "-nt" => return .ok ((← kindOf a).toOption.isSome && (← kindOf b).toOption.isNone)
  | "-ot" => return .ok ((← kindOf a).toOption.isNone && (← kindOf b).toOption.isSome)
  | _ => return .ok false

/-- What is looked at while a condition is read: the arguments from the last one on that was
taken. -/
abbrev Judging := ExceptT ConditionFault (StateT (List Text) Running)

namespace Judging

def ofRunning {α : Type} (a : Running α) : Judging α := ExceptT.lift (StateT.lift a)

def following : Judging ConditionToken := return .ofArguments ((← get).drop 1)

def step (n : Nat) : Judging ConditionToken := do
  modify (·.drop n)
  return .ofArguments (← get)

def argumentOf (operator : Text) : Judging Text := do
  match (← get).drop 1 with
  | [] => throw (.argumentMissing operator)
  | s :: rest =>
    set (s :: rest)
    return s

mutual

def oneOf : Nat → ConditionToken → Judging Bool
  | 0, _ => return false
  | fuel + 1, token => do
    let a ← allOf fuel token
    if (← following) == .either then
      let b ← oneOf fuel (← step 2)
      return a || b
    else return a

def allOf : Nat → ConditionToken → Judging Bool
  | 0, _ => return false
  | fuel + 1, token => do
    let a ← negatable fuel token
    if (← following) == .both then
      let b ← allOf fuel (← step 2)
      return a && b
    else return a

def negatable : Nat → ConditionToken → Judging Bool
  | 0, _ => return false
  | fuel + 1, token => do
    if token == .not then
      let next ← following
      if next != .ending then modify (·.drop 1)
      return !(← negatable fuel next)
    else primary fuel token

def primary : Nat → ConditionToken → Judging Bool
  | 0, _ => return false
  | fuel + 1, token => do
    match token with
    | .ending => return false
    | .opening =>
      let next ← step 1
      if next == .closing then return false
      let a ← oneOf fuel next
      unless (← step 1) == .closing do throw .parenthesisMissing
      return a
    | .unary letter =>
      let s ← argumentOf ['-', letter]
      ofRunning (holdsOf letter s)
    | _ =>
      let a := (← get).headD []
      match ← following with
      | .binary operator =>
        modify (·.drop 1)
        let b ← argumentOf operator
        match ← ofRunning (holdsBetween a operator b) with
        | .ok holds => return holds
        | .error fault => throw fault
      | _ => return !a.isEmpty

end

def whole (token : ConditionToken) : Judging Bool := do
  let a ← oneOf (8 * (← get).length + 8) token
  match ← get with
  | s :: next :: _ => throw (.unexpected s next)
  | _ => return a

end Judging

/-- Whether the condition that the arguments make up holds. Up to four arguments are looked at by
their number first. -/
def holds : List Text → Running (Except ConditionFault Bool)
  | [] => return .ok false
  | args => do
    let judge (token : ConditionToken) (args : List Text) :
        Running (Except ConditionFault Bool) := do
      let (result, _) ← (Judging.whole token).run.run args
      return result
    let inside := (args.drop 1).dropLast
    match args with
    | [a, operator, b] =>
      if ConditionToken.isBinary operator then judge .operand args
      else if a = ['('] ∧ b = [')'] then judge (.ofArguments inside) inside
      else if a = ['!'] then return (← holds [operator, b]).map (!·)
      else judge (.ofArguments args) args
    | [a, b, c, d] =>
      if a = ['('] ∧ d = [')'] then judge (.ofArguments inside) inside
      else if a = ['!'] then return (← holds [b, c, d]).map (!·)
      else judge (.ofArguments args) args
    | args => judge (.ofArguments args) args
termination_by args => args.length

/-- A condition as a command. With `closing` its last argument has to be a bracket. -/
def testWith (complaint : List Text → ConditionFault → Running Unit) (closing : Bool) : Utility :=
  fun args => do
    let isClosed := args.getLast? == some [']']
    let condition := if closing then args.dropLast else args
    match ← if closing && !isClosed then pure (.error .unclosed) else holds condition with
    | .ok true => exitWith 0
    | .ok false => exitWith 1
    | .error fault =>
      complaint condition fault
      exitWith 2

def test (closing : Bool) : Utility :=
  testWith (fun args fault => complainAs (fault.programMessage args)) closing

end ErasedBridges.Shell
