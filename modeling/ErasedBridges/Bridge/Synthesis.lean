import ErasedBridges.Body.Basic
import ErasedBridges.Bridge.Declaration
import ErasedBridges.Bridge.Pattern

/-!
# Bridges for the empty class

A bridge keeps its typed body. `Bridge.method` lays the body out as the method that goes into
the class text.
-/

namespace ErasedBridges

structure Bridge where
  flags : List Text
  name : Text
  descriptor : MethodDescriptor
  body : Body
  line : Nat
  throws : List Text
  signature : Option MethodSignature
  quote : Option Quote
  /-- The variant that the declaration was specialised for. -/
  variant : Option Primitive
  /-- Whether the method is a bridge to one of the same parameters. -/
  covariant : Bool
deriving DecidableEq, Repr

namespace Bridge

/-- The signature line, unless erasure says the same. -/
def signatureAttribute? (b : Bridge) : Option Attribute :=
  (b.signature.filter (·.isGeneric)).map fun s => .signature ⟨s.text, b.quote⟩

def method (b : Bridge) : Method where
  flags := b.flags
  name := b.name
  descriptor := b.descriptor.text
  attributes :=
    .code (b.body.layOut (some b.line)) ::
      ((if b.throws.isEmpty then [] else [.exceptions b.throws]) ++ b.signatureAttribute?.toList)

end Bridge

/-- A parameter and the first slot that holds it. -/
structure Argument where
  type : Descriptor
  slot : Nat
deriving DecidableEq, Repr

namespace Argument

def load (a : Argument) : Instruction := .load ((ValueKind.of? a.type).getD .reference) a.slot

def loadReference (a : Argument) : Instruction := .load .reference a.slot

end Argument

def throwable : Text := "java/lang/Throwable".toList

def returnReference : Instruction := .ret (some .reference)

namespace Supplied

def objectDescriptor : Descriptor := .object "java/lang/Object".toList

def instructions : Supplied → List Argument → Except ShapeFault (List Instruction)
  | supplier, source :: _ => .ok
    [source.loadReference,
      .invokeInterface "java/util/function/Supplier".toList "get".toList ⟨[], objectDescriptor⟩]
  | function, source :: argument :: _ => .ok
    [source.loadReference, argument.loadReference,
      .invokeInterface "java/util/function/Function".toList "apply".toList
        ⟨[objectDescriptor], objectDescriptor⟩]
  | _, _ => .error .parameterCount

/-- The method of a functional interface that gives a primitive value. -/
def accessor (p : Primitive) : Supplied → Text × MethodDescriptor
  | supplier => ("getAs".toList ++ p.upperName, ⟨[], p.descriptor⟩)
  | function =>
    (if p = .boolean then "test".toList else "applyAs".toList ++ p.upperName,
      ⟨[objectDescriptor], p.descriptor⟩)

end Supplied

namespace Pattern

def emptyInstance (l : Layout) : Instruction :=
  .invokeStatic l.emptyFactoryOwner l.emptyFactory.name l.emptyFactoryDescriptor

def returnClass (returnType : Descriptor) : Except ShapeFault Text :=
  match returnType.className? with
  | some c => .ok c
  | none => .error .returnNotObject

def forward (l : Layout) (args : List Argument) : List Instruction :=
  .load .reference 0 :: (args.map Argument.load ++
    [.invokeVirtual l.emptyClassName "ifNone".toList ⟨args.map Argument.type, .void⟩])

/-- The instructions of a body with these parameters and this return type. Arguments that are
not there are an error of the parameter count. -/
def instructions (l : Layout) (args : List Argument) (returnType : Descriptor) :
    Pattern → Except ShapeFault (List Instruction)
  | throwNotPresent => .ok
    [.invokeStatic l.missingValueOwner l.missingValue.name Layout.missingValueDescriptor, .throw]
  | emptyOf owner => do
    let c ← returnClass returnType
    let onInterface := owner == .ofInterface
    return [.invoke ⟨.static, onInterface, c, "empty".toList, ⟨[], returnType⟩⟩, returnReference]
  | throwSupplied s => do return (← s.instructions args) ++ [.cast throwable, .throw]
  | returnArgument | orElse =>
    match args with
    | a :: _ => .ok [a.load, returnReference]
    | [] => .error .parameterCount
  | orGet s | orElseGet s => do
    let supplied ← s.instructions args
    return supplied ++ [.cast (← returnClass returnType), returnReference]
  | filter _ => do
    let c ← returnClass returnType
    let narrow := if c = l.baseInterfaceName then [] else [.cast c]
    return emptyInstance l :: (narrow ++ [returnReference])
  | test _ => .ok [.zero, .ret (some .int)]
  | ifSome shape =>
    let forwarded := shape.forwarded.filterMap (args[·]?)
    .ok ((if forwarded.isEmpty then [] else forward l forwarded) ++ [.ret none])
  | primitiveOrElse p =>
    match args with
    | a :: _ => .ok [.load p.valueKind a.slot, .ret (some p.valueKind)]
    | [] => .error .parameterCount
  | primitiveOrElseGet p s =>
    match args.head?.bind (·.type.className?) with
    | some owner =>
      let (name, d) := s.accessor p
      .ok (args.map Argument.load ++
        [.invokeInterface owner name d, .ret (some p.valueKind)])
    | none => .error .parameterNotObject
  | mapEmpty narrowed _ => do
    let narrow ← if narrowed then (returnClass returnType).map ([.cast ·]) else .ok []
    return emptyInstance l :: (narrow ++ [returnReference])

def throws : Pattern → List Text
  | throwSupplied _ => [throwable]
  | _ => []

end Pattern

/-- What the bridges of one class share: the library and the line that they are attributed to. -/
structure Target where
  layout : Layout
  line : Nat
deriving DecidableEq, Repr

namespace Declaration

/-- Whether only the return type is the library's type variable. -/
def isCovariant (l : Layout) (d : Declaration) : Bool :=
  d.signature.any fun s =>
    s.returnType.isVariable l.typeVariable && !s.params.any (·.isVariable l.typeVariable)

/-- A bridge is not abstract but synthetic. -/
def bridgeFlags (covariant : Bool) (flags : List Text) : List Text :=
  flags.flatMap fun flag =>
    if flag = "abstract".toList then
      if covariant then ["bridge".toList, "synthetic".toList] else ["synthetic".toList]
    else [flag]

/-- The generic type where a signature gives one. -/
def specializedType (name : Text) (boxed generic erased : Descriptor) : Descriptor :=
  if generic.isVariable name then boxed else erased

def specializedDescriptor (l : Layout) (p : Primitive) (s : MethodSignature) (d : Declaration) :
    Except PatchError MethodDescriptor :=
  let pick := specializedType l.typeVariable p.boxedDescriptor
  if s.params.length = d.descriptor.params.length then
    .ok ⟨List.zipWith pick s.params d.descriptor.params,
      pick s.returnType d.descriptor.returnType⟩
  else .error (d.shapeError .arityMismatch)

def receiverLocal (l : Layout) (thisGeneric : Descriptor) : LocalVariable :=
  ⟨"this".toList, .object l.emptyClassName, some thisGeneric⟩

/-- The parameters with their names. A parameter has a generic type where the signature says more
than the descriptor. -/
def parameterLocals (names : List Text) (descriptor : MethodDescriptor)
    (signature : Option MethodSignature) : List LocalVariable :=
  let generics := (signature.map (·.params)).getD []
  (descriptor.params.zip names).mapIdx fun i (type, name) =>
    ⟨name, type, generics[i]?.filter (· ≠ type)⟩

def body (l : Layout) (pattern : Pattern) (descriptor : MethodDescriptor)
    (signature : Option MethodSignature) (d : Declaration) : Except PatchError Body := do
  let fail (fault : ShapeFault) : PatchError :=
    .shape fault d.name descriptor.text d.signatureText
  let some names := pattern.parameterNames? | .error .tooManyParameters
  if names.length ≠ descriptor.params.length then .error (fail .parameterCount)
  let thisGeneric ← PatchError.ofRead (Descriptor.parse l.emptyThisGeneric)
  let (slots, b) := (Body.empty.addLocal (receiverLocal l thisGeneric)).run
    ((parameterLocals names descriptor signature).map .addLocal)
  let args := List.zipWith Argument.mk descriptor.params slots
  match pattern.instructions l args descriptor.returnType with
  | .error fault => .error (fail fault)
  | .ok instructions => return (b.run (instructions.map .push)).2

def bridge (t : Target) (pattern : Pattern) (variant : Option Primitive)
    (descriptor : MethodDescriptor) (signature : Option MethodSignature) (d : Declaration) :
    Except PatchError Bridge := do
  let body ← d.body t.layout pattern descriptor signature
  let covariant := d.isCovariant t.layout
  return {
    flags := bridgeFlags covariant d.flags
    name := d.name
    descriptor, body
    line := t.line
    throws := pattern.throws
    signature
    quote := d.quote
    variant, covariant }

def variantBridge (t : Target) (pattern : Pattern) (s : MethodSignature) (d : Declaration)
    (p : Primitive) : Except PatchError Bridge := do
  let descriptor ← d.specializedDescriptor t.layout p s
  let signature ← PatchError.ofRead (s.substitute t.layout.typeVariable p.boxedDescriptor)
  d.bridge t pattern (some p) descriptor (some signature)

/-- One bridge for each variant if the library's type variable is a parameter or the return type
of the signature, and otherwise one bridge for the declaration as it stands. -/
def synthesize (t : Target) (pattern : Pattern) (d : Declaration) :
    Except PatchError (List Bridge) :=
  match d.signature.filter (·.hasTopLevel t.layout.typeVariable) with
  | some s => Primitive.all.mapM (d.variantBridge t pattern s)
  | none => (d.bridge t pattern none d.descriptor d.signature).map ([·])

end Declaration
end ErasedBridges
