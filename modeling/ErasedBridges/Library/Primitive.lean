import ErasedBridges.Body.Instruction

/-!
# The eight primitive variants

Every list that goes through the variants does so in the order of `all`.
-/

namespace ErasedBridges

inductive Primitive where
  | boolean
  | byte
  | char
  | double
  | float
  | int
  | long
  | short
deriving DecidableEq, Repr

namespace Primitive

def all : List Primitive := [boolean, byte, char, double, float, int, long, short]

def index : Primitive → Nat
  | boolean => 0
  | byte => 1
  | char => 2
  | double => 3
  | float => 4
  | int => 5
  | long => 6
  | short => 7

def upperName : Primitive → Text
  | boolean => "Boolean".toList
  | byte => "Byte".toList
  | char => "Char".toList
  | double => "Double".toList
  | float => "Float".toList
  | int => "Int".toList
  | long => "Long".toList
  | short => "Short".toList

def lowerName : Primitive → Text
  | boolean => "boolean".toList
  | byte => "byte".toList
  | char => "char".toList
  | double => "double".toList
  | float => "float".toList
  | int => "int".toList
  | long => "long".toList
  | short => "short".toList

def boxed : Primitive → Text
  | boolean => "java/lang/Boolean".toList
  | byte => "java/lang/Byte".toList
  | char => "java/lang/Character".toList
  | double => "java/lang/Double".toList
  | float => "java/lang/Float".toList
  | int => "java/lang/Integer".toList
  | long => "java/lang/Long".toList
  | short => "java/lang/Short".toList

def boxedDescriptor (p : Primitive) : Descriptor := .object p.boxed

def baseType : Primitive → BaseType
  | boolean => .boolean
  | byte => .byte
  | char => .char
  | double => .double
  | float => .float
  | int => .int
  | long => .long
  | short => .short

def descriptor (p : Primitive) : Descriptor := .ofBase p.baseType

def valueKind (p : Primitive) : ValueKind := .ofBase p.baseType

def ofUpperName? (s : Text) : Option Primitive := all.find? (·.upperName = s)

def ofLowerName? (s : Text) : Option Primitive := all.find? (·.lowerName = s)

theorem mem_all (p : Primitive) : p ∈ all := by cases p <;> decide

theorem getElem?_index_all (p : Primitive) : all[p.index]? = some p := by cases p <;> rfl

end Primitive
end ErasedBridges
