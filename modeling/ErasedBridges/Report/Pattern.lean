import ErasedBridges.Bridge.Pattern
import ErasedBridges.Json.Basic

/-!
# How patterns are shown

For a listing a pattern is written with its parameters in braces, and for other programs as an
object whose field `pattern` says which one it is.
-/

namespace ErasedBridges

namespace FactoryOwner

def shown : FactoryOwner → String
  | ofClass => "Class"
  | ofInterface => "Interface"

def tag : FactoryOwner → String
  | ofClass => "class"
  | ofInterface => "interface"

end FactoryOwner

namespace Supplied

def shown : Supplied → String
  | supplier => "Supplier"
  | function => "Function"

def tag : Supplied → String
  | supplier => "supplier"
  | function => "function"

end Supplied

namespace IfSomeShape

def all : List IfSomeShape :=
  [consumer, objConsumer, consumerOrRun, objConsumerOrRun, consumerOrAccept, objConsumerOrAccept,
    objConsumerArgOrAccept]

def shown : IfSomeShape → String
  | consumer => "Consumer"
  | objConsumer => "ObjConsumer"
  | consumerOrRun => "ConsumerOrRun"
  | objConsumerOrRun => "ObjConsumerOrRun"
  | consumerOrAccept => "ConsumerOrAccept"
  | objConsumerOrAccept => "ObjConsumerOrAccept"
  | objConsumerArgOrAccept => "ObjConsumerArgOrAccept"

def tag : IfSomeShape → String
  | consumer => "consumer"
  | objConsumer => "obj_consumer"
  | consumerOrRun => "consumer_or_run"
  | objConsumerOrRun => "obj_consumer_or_run"
  | consumerOrAccept => "consumer_or_accept"
  | objConsumerOrAccept => "obj_consumer_or_accept"
  | objConsumerArgOrAccept => "obj_consumer_arg_or_accept"

end IfSomeShape

namespace Pattern

def shownParts : Pattern → String × List (String × Text)
  | throwNotPresent => ("ThrowNotPresent", [])
  | emptyOf owner => ("EmptyOf", [("owner", owner.shown.toList)])
  | throwSupplied s => ("ThrowSupplied", [supplied s])
  | returnArgument => ("ReturnArgument", [])
  | orGet s => ("OrGet", [supplied s])
  | orElse => ("OrElse", [])
  | orElseGet s => ("OrElseGet", [supplied s])
  | filter n => ("Filter", [arity n])
  | test n => ("Matches", [arity n])
  | ifSome shape => ("IfSome", [("shape", shape.shown.toList)])
  | primitiveOrElse p => ("PrimitiveOrElse", [primitive p])
  | primitiveOrElseGet p s => ("PrimitiveOrElseGet", [primitive p, supplied s])
  | mapEmpty narrowed n =>
    ("MapEmpty", [("narrowed", (if narrowed then "true" else "false").toList), arity n])
where
  supplied (s : Supplied) := ("supplied", s.shown.toList)
  arity (n : Nat) := ("arity", Text.decimal n)
  primitive (p : Primitive) := ("primitive", p.upperName)

/-- `Filter { arity: 0 }`, or the name alone where there are no parameters. -/
def shown (p : Pattern) : Text :=
  let (name, fields) := p.shownParts
  if fields.isEmpty then name.toList
  else name.toList ++ " \x7b ".toList ++
    Text.join ", ".toList (fields.map fun (f, v) => f.toList ++ ": ".toList ++ v) ++
    " \x7d".toList

def toJson (p : Pattern) : Json :=
  .ofFields (("pattern", .ofString (tagged p).1) :: (tagged p).2)
where
  tagged : Pattern → String × List (String × Json)
    | throwNotPresent => ("throw_not_present", [])
    | emptyOf owner => ("empty_of", [("owner", .ofString owner.tag)])
    | throwSupplied s => ("throw_supplied", [supplied s])
    | returnArgument => ("return_argument", [])
    | orGet s => ("or_get", [supplied s])
    | orElse => ("or_else", [])
    | orElseGet s => ("or_else_get", [supplied s])
    | filter n => ("filter", [arity n])
    | test n => ("matches", [arity n])
    | ifSome shape => ("if_some", [("shape", .ofString shape.tag)])
    | primitiveOrElse p => ("primitive_or_else", [primitive p])
    | primitiveOrElseGet p s => ("primitive_or_else_get", [primitive p, supplied s])
    | mapEmpty narrowed n => ("map_empty", [("narrowed", .bool narrowed), arity n])
  supplied (s : Supplied) := ("supplied", Json.ofString s.tag)
  arity (n : Nat) := ("arity", Json.number n)
  primitive (p : Primitive) := ("primitive", Json.string p.lowerName)

end Pattern
end ErasedBridges
