import ErasedBridges.Library.Primitive

/-!
# The shapes of bridge bodies

A pattern says what the body of a bridge does and names its parameters for the debug tables.
-/

namespace ErasedBridges

/-- Where the static method `empty` of a return type is declared. -/
inductive FactoryOwner where
  | ofClass
  | ofInterface
deriving DecidableEq, Repr

/-- How a value is obtained: from a supplier, or from a function and its argument. -/
inductive Supplied where
  | supplier
  | function
deriving DecidableEq, Repr

namespace Supplied

def ofArity? : Nat → Option Supplied
  | 1 => some supplier
  | 2 => some function
  | _ => none

def parameterNames : Supplied → List Text
  | supplier => ["supplier".toList]
  | function => ["supplier".toList, "arg".toList]

end Supplied

/-- Parameters of the methods that run an action on a present value. The action takes the value
or, with `obj`, an object before it; what follows `Or` is done when there is no value. -/
inductive IfSomeShape where
  | consumer
  | objConsumer
  | consumerOrRun
  | objConsumerOrRun
  | consumerOrAccept
  | objConsumerOrAccept
  | objConsumerArgOrAccept
deriving DecidableEq, Repr

namespace IfSomeShape

def parameterNames : IfSomeShape → List Text
  | consumer => ["ifSome".toList]
  | objConsumer => ["ifSome".toList, "arg".toList]
  | consumerOrRun => ["ifSome".toList, "ifNone".toList]
  | objConsumerOrRun => ["ifSome".toList, "ifSomeArg".toList, "ifNone".toList]
  | consumerOrAccept => ["ifSome".toList, "ifNone".toList, "ifNoneArg".toList]
  | objConsumerOrAccept => ["ifSome".toList, "ifNone".toList, "arg".toList]
  | objConsumerArgOrAccept =>
    ["ifSome".toList, "ifSomeArg".toList, "ifNone".toList, "ifNoneArg".toList]

/-- The places of the parameters that the empty class's own `ifNone` takes. -/
def forwarded : IfSomeShape → List Nat
  | consumer | objConsumer => []
  | consumerOrRun => [1]
  | objConsumerOrRun => [2]
  | consumerOrAccept | objConsumerOrAccept => [1, 2]
  | objConsumerArgOrAccept => [2, 3]

/-- The ends of the parameters' descriptors, for an action on values of type `element`. -/
def suffixes (element : Text) : IfSomeShape → List Text
  | consumer => [action]
  | objConsumer => [objAction, "/Object;".toList]
  | consumerOrRun => [action, "/Runnable;".toList]
  | objConsumerOrRun => [objAction, "/Object;".toList, "/Runnable;".toList]
  | consumerOrAccept => [action, "/Consumer;".toList, "/Object;".toList]
  | objConsumerOrAccept => [objAction, "/Consumer;".toList, "/Object;".toList]
  | objConsumerArgOrAccept =>
    [objAction, "/Object;".toList, "/Consumer;".toList, "/Object;".toList]
where
  action := '/' :: (element ++ "Consumer;".toList)
  objAction := "/Obj".toList ++ element ++ "Consumer;".toList

/-- The shapes of methods that do nothing without a value, and of those that do. -/
def candidates (orElse : Bool) : List IfSomeShape :=
  if orElse then
    [consumerOrRun, objConsumerOrRun, consumerOrAccept, objConsumerOrAccept,
      objConsumerArgOrAccept]
  else [consumer, objConsumer]

def fits (element : Text) (params : List Descriptor) (shape : IfSomeShape) : Bool :=
  let suffixes := shape.suffixes element
  params.length == suffixes.length &&
    (params.zip suffixes).all fun (param, suffix) => Text.endsWith param.text suffix

/-- The element type in a method name after `ifSome`, and whether the name says `OrElse`. -/
def splitName (rest : Text) : Text × Bool :=
  match Text.dropEnd? "OrElse".toList rest with
  | some element => (element, true)
  | none => (rest, false)

/-- The first shape that fits the parameters of the method `ifSome` followed by `rest`. -/
def of? (rest : Text) (params : List Descriptor) : Option IfSomeShape :=
  let (element, orElse) := splitName rest
  (candidates orElse).find? (·.fits element params)

end IfSomeShape

inductive Pattern where
  /-- Throw the library's exception for a missing value. -/
  | throwNotPresent
  /-- Return the empty instance of the return type. -/
  | emptyOf (owner : FactoryOwner)
  /-- Throw what the argument supplies. -/
  | throwSupplied (supplied : Supplied)
  /-- Return the alternative option. -/
  | returnArgument
  /-- Return the option that the argument supplies. -/
  | orGet (supplied : Supplied)
  /-- Return the default value. -/
  | orElse
  /-- Return the value that the argument supplies. -/
  | orElseGet (supplied : Supplied)
  /-- Return the shared empty instance. -/
  | filter (arity : Nat)
  /-- Return false. -/
  | test (arity : Nat)
  | ifSome (shape : IfSomeShape)
  /-- Return the default of a primitive type. -/
  | primitiveOrElse (primitive : Primitive)
  /-- Return the primitive value that the argument supplies. -/
  | primitiveOrElseGet (primitive : Primitive) (supplied : Supplied)
  /-- Return the shared empty instance, as the return type if that is narrowed to a variant. -/
  | mapEmpty (narrowed : Bool) (arity : Nat)
deriving DecidableEq, Repr

namespace Pattern

def firstNames? (names : List Text) (arity : Nat) : Option (List Text) :=
  if arity ≤ names.length then some (names.take arity) else none

/-- Names of the parameters in order. There are none for an arity above two. -/
def parameterNames? : Pattern → Option (List Text)
  | throwNotPresent | emptyOf _ => some []
  | throwSupplied s | orGet s | orElseGet s | primitiveOrElseGet _ s => some s.parameterNames
  | returnArgument => some ["option".toList]
  | orElse | primitiveOrElse _ => some ["value".toList]
  | filter arity | test arity => firstNames? ["predicate".toList, "arg".toList] arity
  | ifSome shape => some shape.parameterNames
  | mapEmpty _ arity => firstNames? ["mapper".toList, "arg".toList] arity

end Pattern
end ErasedBridges
