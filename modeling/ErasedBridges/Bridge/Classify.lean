import ErasedBridges.Bridge.Declaration
import ErasedBridges.Bridge.Pattern

/-!
# Choosing a pattern for a declaration

The name of a method decides its family: the families are tried in a fixed order and the first
that the name fits is taken. Within it, parameters that the family does not know are an error.
-/

namespace ErasedBridges

/-- What a declaration needs. Erasure may give the empty class a matching method already. -/
inductive Classification where
  | noBridge
  | bridge (pattern : Pattern)
deriving DecidableEq, Repr

namespace Family

def primitiveBefore? (suffix name : Text) : Option Primitive :=
  (Text.dropEnd? suffix name).bind Primitive.ofLowerName?

/-- The family of a method that is none of those decided by comparing its name alone. -/
def ofAffix? (name : Text) : Option Family :=
  match "ifSome".toList.isPrefixOf? name with
  | some rest => some (ifSome rest)
  | none =>
    match primitiveBefore? "OrElse".toList name with
    | some p => some (primitiveDefault p)
    | none =>
      match primitiveBefore? "OrElseGet".toList name with
      | some p => some (primitiveSuppliedDefault p)
      | none =>
        if Text.startsWith name "map".toList || Text.startsWith name "flatMap".toList then
          some mapping
        else none

def of? (name : Text) (arity : Nat) : Option Family :=
  let starts (s : String) : Bool := Text.startsWith name s.toList
  let ends (s : String) : Bool := Text.endsWith name s.toList
  if arity = 0 ∧ (starts "get" ∨ ends "ElseThrow") then some absentAccessor
  else if arity = 0 ∧ (starts "toOptional" ∨ ends "Stream") then some emptyConversion
  else if ends "ElseThrow" then some throwingAccessor
  else if name = "or".toList then some alternative
  else if starts "orGet" then some suppliedAlternative
  else if name = "orElse".toList then some defaultValue
  else if name = "orElseGet".toList then some suppliedDefault
  else if starts "filter" then some filter
  else if starts "matches" then some predicateTest
  else ofAffix? name

def pattern? (family : Family) (name : Text) (d : MethodDescriptor) : Option Pattern :=
  let arity := d.params.length
  let returnsClass := d.returnType.className?.isSome
  match family with
  | absentAccessor => some .throwNotPresent
  | emptyConversion =>
    if returnsClass then
      some (.emptyOf (if Text.startsWith name "toOptional".toList then .ofClass else .ofInterface))
    else none
  | throwingAccessor => (Supplied.ofArity? arity).map .throwSupplied
  | alternative => if arity = 1 then some .returnArgument else none
  | suppliedAlternative => (Supplied.ofArity? arity).map .orGet
  | defaultValue => if arity = 1 ∧ d.returnType.isReference then some .orElse else none
  | suppliedDefault => (Supplied.ofArity? arity).map .orElseGet
  | filter => if arity ≤ 2 ∧ returnsClass then some (.filter arity) else none
  | predicateTest => if 1 ≤ arity ∧ arity ≤ 2 then some (.test arity) else none
  | ifSome rest => (IfSomeShape.of? rest d.params).map .ifSome
  | primitiveDefault p => if d.params = [p.descriptor] then some (.primitiveOrElse p) else none
  | primitiveSuppliedDefault p =>
    if (d.params.head?.bind Descriptor.className?).isSome then
      (Supplied.ofArity? arity).map (.primitiveOrElseGet p)
    else none
  | mapping =>
    if 1 ≤ arity ∧ arity ≤ 2 ∧ returnsClass then
      some (.mapEmpty (Text.contains name "To".toList) arity)
    else none

end Family

namespace Declaration

def pattern (d : Declaration) : Except PatchError Pattern :=
  match Family.of? d.name d.arity with
  | none => .error (d.shapeError .noPattern)
  | some family =>
    match family.pattern? d.name d.descriptor with
    | some p => .ok p
    | none => .error (d.shapeError (.unsupported family))

/-- A declaration of the generic interface needs bridges only if the library's type variable is
one of its parameters or its return type. -/
def classify (l : Layout) (d : Declaration) : Except PatchError Classification :=
  if d.origin = .generic ∧ d.hasTopLevel l.typeVariable = false then .ok .noBridge
  else d.pattern.map .bridge

end Declaration
end ErasedBridges
