import ErasedBridges.ClassFile.Basic
import ErasedBridges.Library.Layout
import ErasedBridges.PatchError
import ErasedBridges.Signature.Variables

/-!
# Abstract methods of the option interfaces

A declaration is an abstract method with its descriptor and signature read. The type variable of
a specialised interface is not the library's. It is called `U` to tell the two apart, which fails
in a library whose own variable is `U`.
-/

namespace ErasedBridges

inductive Origin where
  | generic
  | specialized (variant : Primitive)
deriving DecidableEq, Repr

namespace Origin

/-- Generic before specialised, and these in the order of the variants. -/
def rank : Origin → Nat
  | generic => 0
  | specialized p => p.index + 1

def name : Origin → Text
  | generic => "generic".toList
  | specialized p => p.lowerName

end Origin

structure Declaration where
  origin : Origin
  flags : List Text
  name : Text
  descriptor : MethodDescriptor
  signature : Option MethodSignature
  quote : Option Quote
deriving DecidableEq, Repr

namespace Declaration

/-- The name given to the library's type variable in a specialised interface. -/
def specializedVariable : Text := ['U']

def adaptSignature (l : Layout) : Origin → MethodSignature → Except ReadError MethodSignature
  | .generic, s => .ok s
  | .specialized _, s => s.rename l.typeVariable specializedVariable

/-- The signature is read before the descriptor. -/
def ofMethod (l : Layout) (origin : Origin) (m : Method) : Except ReadError Declaration := do
  let signature ← match ← m.parsedSignature with
    | none => pure none
    | some s => (adaptSignature l origin s).map some
  let descriptor ← m.parsedDescriptor
  return ⟨origin, m.flags, m.name, descriptor, signature, m.signature?.bind (·.quote)⟩

def arity (d : Declaration) : Nat := d.descriptor.params.length

/-- Empty without a signature. -/
def signatureText (d : Declaration) : Text := (d.signature.map MethodSignature.text).getD []

/-- Whether a variable is a parameter or the return type of the signature. -/
def hasTopLevel (name : Text) (d : Declaration) : Bool := d.signature.any (·.hasTopLevel name)

def shapeError (d : Declaration) (fault : ShapeFault) : PatchError :=
  .shape fault d.name d.descriptor.text d.signatureText

end Declaration
end ErasedBridges
