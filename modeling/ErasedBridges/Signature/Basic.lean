import ErasedBridges.Descriptor.Basic

/-!
# Generic signatures

A signature prints as the text that it was read from.
-/

namespace ErasedBridges

/-- A formal type parameter such as `T:Ljava/lang/Object;` or `X::Ljava/io/Serializable;`. -/
structure TypeParameter where
  name : Text
  classBound : Option Descriptor
  interfaceBounds : List Descriptor
deriving DecidableEq, Repr

namespace TypeParameter

def text (p : TypeParameter) : Text :=
  p.name ++ ':' :: ((p.classBound.map Descriptor.text).getD [] ++
    p.interfaceBounds.flatMap fun b => ':' :: b.text)

end TypeParameter

def typeParametersText (ps : List TypeParameter) : Text :=
  if ps.isEmpty then [] else '<' :: (ps.flatMap TypeParameter.text ++ ['>'])

structure MethodSignature where
  typeParams : List TypeParameter
  params : List Descriptor
  returnType : Descriptor
  throws : List Descriptor
deriving DecidableEq, Repr

namespace MethodSignature

def text (s : MethodSignature) : Text :=
  typeParametersText s.typeParams ++ '(' :: (textOf s.params ++ ')' :: (s.returnType.text ++
    s.throws.flatMap fun t => '^' :: t.text))

def hasTopLevel (name : Text) (s : MethodSignature) : Bool :=
  s.returnType.isVariable name || s.params.any (·.isVariable name)

/-- Whether the signature says anything that the erased descriptor does not. -/
def isGeneric (s : MethodSignature) : Bool :=
  !s.typeParams.isEmpty || s.params.any (·.isGeneric) || s.returnType.isGeneric ||
    s.throws.any (·.isGeneric)

end MethodSignature

/-- The supertypes are the superclass and then the interfaces. -/
structure ClassSignature where
  typeParams : List TypeParameter
  supertypes : List Descriptor
deriving DecidableEq, Repr

namespace ClassSignature

def text (s : ClassSignature) : Text := typeParametersText s.typeParams ++ textOf s.supertypes

end ClassSignature
end ErasedBridges
