import ErasedBridges.Text.Blank
import ErasedBridges.Signature.Parse

/-!
# The text of a disassembled class

A class text is a sequence of items. Interfaces, class signatures and methods with their code are
taken apart; every other line is kept as it stands.
-/

namespace ErasedBridges

inductive Quote where
  | single
  | double
deriving DecidableEq, Repr

namespace Quote

def char : Quote → Char
  | single => '\''
  | double => '"'

end Quote

structure SignatureText where
  value : Text
  quote : Option Quote
deriving DecidableEq, Repr

/-- An instruction with its label. A label on a line of its own has no text. -/
structure LabelledLine where
  label : Text
  text : Text
deriving DecidableEq, Repr

structure LineEntry where
  label : Text
  line : Nat
deriving DecidableEq, Repr

structure VariableEntry where
  index : Nat
  name : Text
  descriptor : Text
  start : Text
  stop : Text
deriving DecidableEq, Repr

inductive CodeItem where
  | instruction (line : LabelledLine)
  | lineNumbers (entries : List LineEntry)
  | localVariables (entries : List VariableEntry)
  | localTypes (entries : List VariableEntry)
  | raw (line : Text)
deriving DecidableEq, Repr

structure Code where
  stack : Nat
  locals : Nat
  items : List CodeItem
deriving DecidableEq, Repr

inductive Attribute where
  | code (code : Code)
  | signature (signature : SignatureText)
  | exceptions (names : List Text)
  | raw (line : Text)
deriving DecidableEq, Repr

structure Method where
  flags : List Text
  name : Text
  descriptor : Text
  attributes : List Attribute
deriving DecidableEq, Repr

inductive ClassItem where
  | implements (name : Text)
  | signature (signature : SignatureText)
  | method (method : Method)
  | raw (line : Text)
deriving DecidableEq, Repr

structure ClassFile where
  items : List ClassItem
deriving DecidableEq, Repr

namespace CodeItem

def instruction? : CodeItem → Option LabelledLine
  | instruction l => some l
  | _ => none

def lineNumbers? : CodeItem → Option (List LineEntry)
  | lineNumbers es => some es
  | _ => none

def localVariables? : CodeItem → Option (List VariableEntry)
  | localVariables es => some es
  | _ => none

def localTypes? : CodeItem → Option (List VariableEntry)
  | localTypes es => some es
  | _ => none

end CodeItem

namespace Code

def instructions (c : Code) : List LabelledLine := c.items.filterMap CodeItem.instruction?

def lineNumbers? (c : Code) : Option (List LineEntry) := c.items.findSome? CodeItem.lineNumbers?

def localVariables? (c : Code) : Option (List VariableEntry) :=
  c.items.findSome? CodeItem.localVariables?

def localTypes? (c : Code) : Option (List VariableEntry) :=
  c.items.findSome? CodeItem.localTypes?

end Code

namespace Attribute

def code? : Attribute → Option Code
  | code c => some c
  | _ => none

def signature? : Attribute → Option SignatureText
  | signature s => some s
  | _ => none

end Attribute

namespace Method

def hasFlag (flag : Text) (m : Method) : Bool := m.flags.elem flag

def isAbstract (m : Method) : Bool := m.hasFlag "abstract".toList

def isBridge (m : Method) : Bool := m.hasFlag "bridge".toList

def code? (m : Method) : Option Code := m.attributes.findSome? Attribute.code?

def signature? (m : Method) : Option SignatureText := m.attributes.findSome? Attribute.signature?

def parsedDescriptor (m : Method) : Except ReadError MethodDescriptor :=
  MethodDescriptor.parse m.descriptor

def parsedSignature (m : Method) : Except ReadError (Option MethodSignature) :=
  match m.signature? with
  | none => .ok none
  | some s => (MethodSignature.parse s.value).map some

end Method

namespace ClassItem

def interface? : ClassItem → Option Text
  | implements name => some name
  | _ => none

def signature? : ClassItem → Option SignatureText
  | signature s => some s
  | _ => none

def method? : ClassItem → Option Method
  | method m => some m
  | _ => none

/-- The last word of a `.class` line. -/
def className? : ClassItem → Option Text
  | raw line =>
    (".class ".toList.isPrefixOf? (Text.trimEnd line)).bind fun rest => (Text.words rest).getLast?
  | _ => none

end ClassItem

namespace ClassFile

def name? (c : ClassFile) : Option Text := c.items.findSome? ClassItem.className?

def displayName (c : ClassFile) : Text := c.name?.getD "<unknown>".toList

def interfaces (c : ClassFile) : List Text := c.items.filterMap ClassItem.interface?

def methods (c : ClassFile) : List Method := c.items.filterMap ClassItem.method?

def signature? (c : ClassFile) : Option SignatureText := c.items.findSome? ClassItem.signature?

def signatureIndex? (c : ClassFile) : Option Nat := c.items.findIdx? (·.signature?.isSome)

end ClassFile
end ErasedBridges
