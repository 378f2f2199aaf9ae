import ErasedBridges.Body.Instruction
import ErasedBridges.ClassFile.Basic

/-!
# Method bodies

A body is put together call by call. A call adds an instruction, or a local variable that gets the
next free slots. Laying the body out computes labels, sizes and debug tables.
-/

namespace ErasedBridges

/-- A local variable. A generic type puts it into the table of variable types. -/
structure LocalVariable where
  name : Text
  type : Descriptor
  generic : Option Descriptor
deriving DecidableEq, Repr

structure Body where
  /-- The locals, each with the first of its slots. -/
  locals : List (Nat × LocalVariable)
  nextSlot : Nat
  instructions : List Instruction
deriving DecidableEq, Repr

inductive BodyCall where
  | addLocal (l : LocalVariable)
  | push (i : Instruction)
deriving DecidableEq, Repr

namespace Body

def empty : Body := ⟨[], 0, []⟩

/-- Gives a local the next free slots. The first of them is the result. -/
def allocate (l : LocalVariable) (b : Body) : Nat × Body :=
  (b.nextSlot, { b with
    locals := b.locals ++ [(b.nextSlot, l)]
    nextSlot := b.nextSlot + l.type.slots })

def addLocal (l : LocalVariable) (b : Body) : Body := (b.allocate l).2

def push (i : Instruction) (b : Body) : Body := { b with instructions := b.instructions ++ [i] }

/-- The slots that the calls give to locals, and the body after the last call. -/
def run : List BodyCall → Body → List Nat × Body
  | [], b => ([], b)
  | .addLocal l :: calls, b =>
    let (slot, b) := b.allocate l
    let (slots, b) := run calls b
    (slot :: slots, b)
  | .push i :: calls, b => run calls (b.push i)

def maxLocals (b : Body) : Nat := b.nextSlot

/-- The operand stack after an instruction. It never has less than no words. -/
def depthAfter (depth : Nat) (i : Instruction) : Nat := depth - i.popped + i.pushed

def depthsFrom (depth : Nat) : List Instruction → List Nat
  | [] => []
  | i :: is => depthAfter depth i :: depthsFrom (depthAfter depth i) is

def maxStack (b : Body) : Nat := (depthsFrom 0 b.instructions).foldl max 0

def label (offset : Nat) : Text := 'L' :: Text.decimal offset

/-- The labelled instructions from an offset on, and the bare label after them. -/
def linesFrom (offset : Nat) : List Instruction → List LabelledLine
  | [] => [⟨label offset, []⟩]
  | i :: is => ⟨label offset, i.text⟩ :: linesFrom (offset + i.size) is

def size (b : Body) : Nat := b.instructions.foldr (fun i n => i.size + n) 0

def entry (b : Body) (slot : Nat) (name : Text) (type : Descriptor) : VariableEntry :=
  ⟨slot, name, type.text, label 0, label b.size⟩

def variableEntries (b : Body) : List VariableEntry :=
  b.locals.map fun (slot, l) => b.entry slot l.name l.type

def variableTypeEntries (b : Body) : List VariableEntry :=
  b.locals.filterMap fun (slot, l) => l.generic.map (b.entry slot l.name)

/-- The code of the body. All of it belongs to one source line, if a line is given. Tables
without entries are left out. -/
def layOut (line : Option Nat) (b : Body) : Code where
  stack := b.maxStack
  locals := b.maxLocals
  items :=
    (linesFrom 0 b.instructions).map .instruction ++
    (match line with
      | some n => [.lineNumbers [⟨label 0, n⟩]]
      | none => []) ++
    (if b.variableEntries.isEmpty then [] else [.localVariables b.variableEntries]) ++
    (if b.variableTypeEntries.isEmpty then [] else [.localTypes b.variableTypeEntries])

end Body
end ErasedBridges
