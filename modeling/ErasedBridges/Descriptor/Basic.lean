import ErasedBridges.Text.Basic

/-!
# Type descriptors

A descriptor is one type token, erased (`Ljava/lang/Object;`) or generic (`TT;`,
`Ljava/util/List<+TT;>;`). It keeps its text, so a list of descriptors prints back to the text
it was split from.
-/

namespace ErasedBridges

inductive BaseType where
  | byte
  | char
  | double
  | float
  | int
  | long
  | short
  | boolean
deriving DecidableEq, Repr

namespace BaseType

def code : BaseType → Char
  | byte => 'B'
  | char => 'C'
  | double => 'D'
  | float => 'F'
  | int => 'I'
  | long => 'J'
  | short => 'S'
  | boolean => 'Z'

def ofCode? : Char → Option BaseType
  | 'B' => some byte
  | 'C' => some char
  | 'D' => some double
  | 'F' => some float
  | 'I' => some int
  | 'J' => some long
  | 'S' => some short
  | 'Z' => some boolean
  | _ => none

def slots : BaseType → Nat
  | double | long => 2
  | _ => 1

end BaseType

structure Descriptor where
  text : Text
deriving DecidableEq, Repr

namespace Descriptor

def void : Descriptor := ⟨['V']⟩

def object (internalName : Text) : Descriptor := ⟨'L' :: (internalName ++ [';'])⟩

def ofBase (b : BaseType) : Descriptor := ⟨[b.code]⟩

def isVoid (d : Descriptor) : Bool := d.text == ['V']

def baseType? (d : Descriptor) : Option BaseType :=
  match d.text with
  | [c] => BaseType.ofCode? c
  | _ => none

def isReference (d : Descriptor) : Bool :=
  match d.text with
  | c :: _ => c == 'L' || c == 'T' || c == '['
  | [] => false

/-- The name `N` of a reference `TN;` to a type variable. -/
def variableName? (d : Descriptor) : Option Text :=
  match d.text with
  | 'T' :: s => Text.dropEnd? [';'] s
  | _ => none

def isVariable (name : Text) (d : Descriptor) : Bool := d.variableName? == some name

def slots (d : Descriptor) : Nat :=
  if d.isVoid then 0 else (d.baseType?.map BaseType.slots).getD 1

/-- The class of an object descriptor, without its type arguments. -/
def className? (d : Descriptor) : Option Text :=
  match d.text with
  | 'L' :: s => (Text.dropEnd? [';'] s).map (·.takeWhile (· != '<'))
  | _ => none

/-- Whether there is a type argument or a type variable, so that erasure would change it. -/
def isGeneric (d : Descriptor) : Bool :=
  d.text.elem '<' || (d.text.dropWhile (· == '[')).head? == some 'T'

end Descriptor

def slotsOf (ds : List Descriptor) : Nat := ds.foldr (fun d n => d.slots + n) 0

/-- Inserts a descriptor before the one with this index, or at the end. -/
def insertAt? (index : Nat) (d : Descriptor) (ds : List Descriptor) : Option (List Descriptor) :=
  if index ≤ ds.length then some (ds.take index ++ d :: ds.drop index) else none

def textOf (ds : List Descriptor) : Text := ds.flatMap Descriptor.text

structure MethodDescriptor where
  params : List Descriptor
  returnType : Descriptor
deriving DecidableEq, Repr

namespace MethodDescriptor

def text (m : MethodDescriptor) : Text :=
  '(' :: (textOf m.params ++ ')' :: m.returnType.text)

def paramSlots (m : MethodDescriptor) : Nat := slotsOf m.params

end MethodDescriptor
end ErasedBridges
