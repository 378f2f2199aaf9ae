import ErasedBridges.ReadError
import ErasedBridges.Library.Primitive

/-!
# Why a class cannot be patched
-/

namespace ErasedBridges

/-- The families of option methods, told apart by name and, for the first two, by taking no
parameters. -/
inductive Family where
  | absentAccessor
  | emptyConversion
  | throwingAccessor
  | alternative
  | suppliedAlternative
  | defaultValue
  | suppliedDefault
  | filter
  | predicateTest
  /-- With the method name after `ifSome`. -/
  | ifSome (rest : Text)
  | primitiveDefault (primitive : Primitive)
  | primitiveSuppliedDefault (primitive : Primitive)
  | mapping
deriving DecidableEq, Repr

namespace Family

def name : Family → Text
  | absentAccessor => "absent accessor".toList
  | emptyConversion => "empty conversion".toList
  | throwingAccessor => "throwing accessor".toList
  | alternative => "alternative".toList
  | suppliedAlternative => "supplied alternative".toList
  | defaultValue => "default value".toList
  | suppliedDefault => "supplied default".toList
  | filter => "filter".toList
  | predicateTest => "predicate test".toList
  | ifSome _ => "ifSome".toList
  | primitiveDefault _ => "primitive default".toList
  | primitiveSuppliedDefault _ => "primitive supplied default".toList
  | mapping => "mapping".toList

end Family

inductive ShapeFault where
  | unsupported (family : Family)
  | noPattern
  | arityMismatch
  | parameterCount
  | returnNotObject
  | parameterNotObject
deriving DecidableEq, Repr

namespace ShapeFault

def reason : ShapeFault → Text
  | unsupported family => "unsupported ".toList ++ family.name ++ " shape".toList
  | noPattern => "no synthesis pattern".toList
  | arityMismatch => "signature and descriptor disagree on arity".toList
  | parameterCount => "parameter count does not fit the synthesis pattern".toList
  | returnNotObject => "expected an object return type".toList
  | parameterNotObject => "expected a functional interface parameter".toList

end ShapeFault

inductive CastRole where
  | bridge
  | implementation
deriving DecidableEq, Repr

namespace CastRole

def name : CastRole → Text
  | bridge => "bridge".toList
  | implementation => "implementation".toList

end CastRole

/-- What a class lacks, or has already. A `method` is a name, with its descriptor or without. -/
inductive LocationFault where
  | noClassLine
  | notOptionInterface
  | noMethod (role : CastRole) (name : Text)
  | manyMethods (role : CastRole) (name : Text)
  | bridgeWithoutCode (name : Text)
  | bridgeWithoutCast (method : Text)
  | bridgeWithoutLine (name : Text)
  | bridgeWithoutArguments (name : Text)
  | implementationWithoutCode (method : Text)
  | implementationWithoutLine (method : Text)
  | implementationWithoutLocal (method : Text)
  | alreadyImplements (interface : Text)
  | doesNotImplement (interface : Text)
  | noSignature
  | signatureLacks (segment : Text)
deriving DecidableEq, Repr

namespace LocationFault

def message : LocationFault → Text
  | noClassLine => "missing .class directive".toList
  | notOptionInterface => "not one of the option interfaces".toList
  | noMethod role name => "no ".toList ++ role.name ++ " method named ".toList ++ name
  | manyMethods role name =>
    "more than one ".toList ++ role.name ++ " method named ".toList ++ name
  | bridgeWithoutCode name => "bridge ".toList ++ name ++ " has no code".toList
  | bridgeWithoutCast method => "bridge ".toList ++ method ++ " has no cast left to remove".toList
  | bridgeWithoutLine name => "bridge ".toList ++ name ++ " has no line number at L0".toList
  | bridgeWithoutArguments name => "bridge ".toList ++ name ++ " takes no arguments".toList
  | implementationWithoutCode method => method ++ " has no code".toList
  | implementationWithoutLine method => method ++ " has no line number at L0".toList
  | implementationWithoutLocal method => method ++ " has no local in slot 1".toList
  | alreadyImplements interface => "already implements ".toList ++ interface
  | doesNotImplement interface => "does not implement ".toList ++ interface
  | noSignature => "has no class signature".toList
  | signatureLacks segment => "class signature lacks ".toList ++ segment

end LocationFault

inductive PatchError where
  | location (className : Text) (fault : LocationFault)
  | shape (fault : ShapeFault) (name descriptor signature : Text)
  | duplicate (className name descriptor : Text)
  /-- A pattern of more parameters than there are names for. -/
  | tooManyParameters
  | unreadable (error : ReadError)
deriving DecidableEq, Repr

namespace PatchError

def message : PatchError → Text
  | location className fault => className ++ ": ".toList ++ fault.message
  | shape fault name descriptor signature =>
    fault.reason ++ ": ".toList ++ name ++ descriptor ++ " (signature: ".toList ++ signature ++
      [')']
  | duplicate className name descriptor =>
    className ++ ": method ".toList ++ name ++ descriptor ++ " is already declared".toList
  | tooManyParameters => "no names for so many parameters".toList
  | unreadable e => e.message

/-- What cannot be read cannot be patched. -/
def ofRead {α : Type} : Except ReadError α → Except PatchError α
  | .ok a => .ok a
  | .error e => .error (.unreadable e)

end PatchError
end ErasedBridges
