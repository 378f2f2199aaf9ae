import ErasedBridges.Library.Primitive

/-!
# Where the option library keeps its classes

The names of an option library: its package, its generic interface, its empty class, and how the
names of its specialised classes and interfaces are built.
-/

namespace ErasedBridges

/-- A static method, by the simple name of its class. -/
structure MethodRef where
  owner : Text
  name : Text
deriving DecidableEq, Repr

structure Layout where
  package : Text
  baseInterface : Text
  emptyClass : Text
  somePrefix : Text
  interfaceSuffix : Text
  /-- Makes the shared empty instance. -/
  emptyFactory : MethodRef
  /-- Makes the exception for a value that is not there. -/
  missingValue : MethodRef
  /-- The type variable of the generic interface. -/
  typeVariable : Text
  /-- The method whose bridge casts its argument. -/
  castMethod : Text
deriving DecidableEq, Repr

namespace Layout

def default : Layout where
  package := "me/dkleszyk/java/option".toList
  baseInterface := "Option".toList
  emptyClass := "None".toList
  somePrefix := "Some".toList
  interfaceSuffix := "Option".toList
  emptyFactory := ⟨"Options".toList, "noneUnchecked".toList⟩
  missingValue := ⟨"Exceptions".toList, "optionNoValue".toList⟩
  typeVariable := "T".toList
  castMethod := "orElse".toList

def qualify (l : Layout) (simpleName : Text) : Text :=
  if l.package.isEmpty then simpleName else l.package ++ '/' :: simpleName

def baseInterfaceName (l : Layout) : Text := l.qualify l.baseInterface

def emptyClassName (l : Layout) : Text := l.qualify l.emptyClass

def someClass (l : Layout) (p : Primitive) : Text := l.qualify (l.somePrefix ++ p.upperName)

def interface (l : Layout) (p : Primitive) : Text := l.qualify (p.upperName ++ l.interfaceSuffix)

/-- The specialised interfaces in the order of the variants. -/
def interfaces (l : Layout) : List Text := Primitive.all.map l.interface

def variantOfInterface? (l : Layout) (name : Text) : Option Primitive :=
  Primitive.all.find? (l.interface · = name)

def appliedToVariable (l : Layout) (className : Text) : Text :=
  'L' :: (className ++ "<T".toList ++ l.typeVariable ++ ";>;".toList)

/-- How the signature of the empty class mentions the generic interface. -/
def baseInterfaceSegment (l : Layout) : Text := l.appliedToVariable l.baseInterfaceName

def emptyThisGeneric (l : Layout) : Text := l.appliedToVariable l.emptyClassName

def emptyFactoryOwner (l : Layout) : Text := l.qualify l.emptyFactory.owner

def emptyFactoryDescriptor (l : Layout) : MethodDescriptor := ⟨[], .object l.baseInterfaceName⟩

def missingValueOwner (l : Layout) : Text := l.qualify l.missingValue.owner

def missingValueDescriptor : MethodDescriptor :=
  ⟨[], .object "java/lang/RuntimeException".toList⟩

end Layout
end ErasedBridges
