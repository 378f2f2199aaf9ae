import ErasedBridges.Library.Layout
import ErasedBridges.Patch.CastElimination

/-!
# Patching the empty class

The empty class is made to implement every specialised interface: in its list of interfaces, in
its signature, and by the bridges that it was lacking.
-/

namespace ErasedBridges

/-- The first method whose name and descriptor are among those before it or in `declared`. -/
def firstDuplicate? (declared : List (Text × Text)) : List Method → Option Method
  | [] => none
  | m :: ms =>
    if declared.elem (m.name, m.descriptor) then some m
    else firstDuplicate? ((m.name, m.descriptor) :: declared) ms

namespace ClassFile

def checkDuplicates (c : ClassFile) (bridges : List Method) : Except PatchError Unit :=
  match firstDuplicate? (c.methods.map fun m => (m.name, m.descriptor)) bridges with
  | some m => .error (.duplicate c.displayName m.name m.descriptor)
  | none => .ok ()

def checkInterfaces (l : Layout) (c : ClassFile) : Except PatchError Unit :=
  match c.interfaces.find? l.interfaces.elem with
  | some name => .error (.location c.displayName (.alreadyImplements name))
  | none => .ok ()

/-- Declares the specialised interfaces directly after the generic one. -/
def addInterfaces (l : Layout) (c : ClassFile) : Except PatchError (List ClassItem) :=
  match splitAtFirst? (·.interface? == some l.baseInterfaceName) c.items with
  | some (before, base, after) =>
    .ok (before ++ base :: (l.interfaces.map .implements ++ after))
  | none => .error (.location c.displayName (.doesNotImplement l.baseInterfaceName))

end ClassFile

namespace SignatureText

def addInterfaces (l : Layout) (className : Text) (s : SignatureText) :
    Except PatchError SignatureText := do
  let parsed ← PatchError.ofRead (ClassSignature.parse s.value)
  let segment ← PatchError.ofRead (Descriptor.parse l.baseInterfaceSegment)
  match splitAtFirst? (· == segment) parsed.supertypes with
  | some (before, base, after) =>
    let supertypes := before ++ base :: (l.interfaces.map .object ++ after)
    return { s with value := { parsed with supertypes }.text }
  | none => .error (.location className (.signatureLacks segment.text))

end SignatureText

namespace ClassFile

def bridgeItems (bridges : List Method) : List ClassItem :=
  bridges.flatMap fun m => [.raw [], .method m]

/-- Adds the specialised interfaces and the bridges. The bridges stand before the signature. -/
def patchEmpty (l : Layout) (bridges : List Method) (c : ClassFile) :
    Except PatchError ClassFile := do
  c.checkDuplicates bridges
  c.checkInterfaces l
  let items ← c.addInterfaces l
  match splitAtFirst? (·.signature?.isSome) items with
  | some (before, .signature s, after) =>
    let s ← s.addInterfaces l c.displayName
    return ⟨before ++ (bridgeItems bridges ++ .signature s :: after)⟩
  | _ => .error (.location c.displayName .noSignature)

end ClassFile
end ErasedBridges
