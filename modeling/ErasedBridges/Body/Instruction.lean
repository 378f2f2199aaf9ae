import ErasedBridges.Descriptor.Basic
import ErasedBridges.Text.Decimal

/-!
# Instructions

The instructions that the bodies of bridges need, with their encoded sizes, their effect on the
operand stack and their text.
-/

namespace ErasedBridges

/-- What load and return instructions tell apart. -/
inductive ValueKind where
  | int
  | long
  | float
  | double
  | reference
deriving DecidableEq, Repr

namespace ValueKind

def ofBase : BaseType → ValueKind
  | .long => long
  | .float => float
  | .double => double
  | _ => int

/-- The kind of a value of this type. Only `V` has none. -/
def of? (d : Descriptor) : Option ValueKind :=
  if d.isVoid then none else some ((d.baseType?.map ofBase).getD reference)

def words : ValueKind → Nat
  | long | double => 2
  | _ => 1

def letter : ValueKind → Char
  | int => 'i'
  | long => 'l'
  | float => 'f'
  | double => 'd'
  | reference => 'a'

end ValueKind

inductive InvokeKind where
  | static
  | virtual
  | interface
deriving DecidableEq, Repr

namespace InvokeKind

def opcode : InvokeKind → Text
  | static => "invokestatic".toList
  | virtual => "invokevirtual".toList
  | interface => "invokeinterface".toList

def receiverWords : InvokeKind → Nat
  | static => 0
  | _ => 1

end InvokeKind

/-- The method that an instruction invokes. `onInterface` says what the owner is. -/
structure Callee where
  kind : InvokeKind
  onInterface : Bool
  owner : Text
  name : Text
  descriptor : MethodDescriptor
deriving DecidableEq, Repr

namespace Callee

def argumentWords (c : Callee) : Nat := c.kind.receiverWords + c.descriptor.paramSlots

/-- An interface call ends in the number of its argument words. -/
def text (c : Callee) : Text :=
  c.kind.opcode ++ (if c.onInterface then " InterfaceMethod ".toList else " Method ".toList) ++
    c.owner ++ ' ' :: c.name ++ ' ' :: c.descriptor.text ++
    match c.kind with
    | .interface => ' ' :: Text.decimal c.argumentWords
    | _ => []

end Callee

inductive Instruction where
  | load (kind : ValueKind) (slot : Nat)
  /-- Without a kind nothing is returned. -/
  | ret (kind : Option ValueKind)
  | throw
  | zero
  | cast (className : Text)
  | invoke (callee : Callee)
deriving DecidableEq, Repr

namespace Instruction

def invokeStatic (owner name : Text) (d : MethodDescriptor) : Instruction :=
  invoke ⟨.static, false, owner, name, d⟩

def invokeVirtual (owner name : Text) (d : MethodDescriptor) : Instruction :=
  invoke ⟨.virtual, false, owner, name, d⟩

def invokeInterface (owner name : Text) (d : MethodDescriptor) : Instruction :=
  invoke ⟨.interface, true, owner, name, d⟩

/-- Encoded length in bytes. Loads have a short form for the first four slots and a wide form
for slots above 255. -/
def size : Instruction → Nat
  | load _ slot => if slot ≤ 3 then 1 else if slot ≤ 255 then 2 else 4
  | ret _ | throw | zero => 1
  | cast _ => 3
  | invoke c => match c.kind with
    | .interface => 5
    | _ => 3

def popped : Instruction → Nat
  | load .. | zero => 0
  | ret kind => (kind.map ValueKind.words).getD 0
  | throw | cast _ => 1
  | invoke c => c.argumentWords

def pushed : Instruction → Nat
  | load kind _ => kind.words
  | ret _ | throw => 0
  | zero | cast _ => 1
  | invoke c => c.descriptor.returnType.slots

def text : Instruction → Text
  | load kind slot =>
    kind.letter :: ("load".toList ++ (if slot ≤ 3 then '_' else ' ') :: Text.decimal slot)
  | ret none => "return".toList
  | ret (some kind) => kind.letter :: "return".toList
  | throw => "athrow".toList
  | zero => "iconst_0".toList
  | cast className => "checkcast ".toList ++ className
  | invoke c => c.text

end Instruction
end ErasedBridges
