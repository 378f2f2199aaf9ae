import ErasedBridges.ClassFile.Basic
import ErasedBridges.Text.Lines

/-!
# Reading a class text

The reader takes one line at a time. Between two lines it holds the items that are complete and
the block that is open, if any. The entries of a table are read when the table closes, so a table
that never closes is reported as such, whatever its entries are.
-/

namespace ErasedBridges

namespace SignatureText

/-- Takes quotes off if they stand at both ends. -/
def read (s : Text) : SignatureText :=
  match Text.trim s with
  | '\'' :: rest =>
    match Text.dropEnd? ['\''] rest with
    | some value => ⟨value, some .single⟩
    | none => ⟨'\'' :: rest, none⟩
  | '"' :: rest =>
    match Text.dropEnd? ['"'] rest with
    | some value => ⟨value, some .double⟩
    | none => ⟨'"' :: rest, none⟩
  | value => ⟨value, none⟩

end SignatureText

namespace LabelledLine

def isLabelChar (c : Char) : Bool := c.isAlphanum || c == '_' || c == '$'

/-- A line is labelled if it starts in its first column with a label and a colon. -/
def read? (line : Text) : Option LabelledLine := do
  let first ← line.head?
  let (label, rest) ← Text.cut? [':'] line
  if (first.isAlpha || first == '_') && label.all isLabelChar then
    return ⟨label, Text.trim rest⟩
  else none

end LabelledLine

def readNumber (limit : Nat) (s : Text) : Except LineFault Nat :=
  match Text.readDecimal? limit s with
  | some n => .ok n
  | none => .error (.number s)

namespace LineEntry

def read (line : Text) : Except LineFault LineEntry :=
  match Text.words line with
  | [label, number] => return ⟨label, ← readNumber Text.maxLine number⟩
  | _ => .error (.lineEntry (Text.trim line))

end LineEntry

namespace VariableEntry

def read (line : Text) : Except LineFault VariableEntry :=
  match Text.words line with
  | [index, isWord, name, descriptor, fromWord, start, toWord, stop] =>
    if isWord = "is".toList ∧ fromWord = "from".toList ∧ toWord = "to".toList then
      return ⟨← readNumber Text.maxShort index, name, descriptor, start, stop⟩
    else .error (.variableEntry (Text.trim line))
  | _ => .error (.variableEntry (Text.trim line))

end VariableEntry

namespace Code

/-- Code without items, from the text after `.code` and a blank. -/
def readSizes (s : Text) : Except LineFault Code :=
  match Text.words s with
  | [stackWord, stack, localsWord, locals] =>
    if stackWord = "stack".toList ∧ localsWord = "locals".toList then do
      let stack ← readNumber Text.maxShort stack
      let locals ← readNumber Text.maxShort locals
      return ⟨stack, locals, []⟩
    else .error (.sizes s)
  | _ => .error (.sizes s)

end Code

namespace Method

def readHeader (s : Text) : Except LineFault Method :=
  match Text.cut? " : ".toList s with
  | none => .error .headerWithoutColon
  | some (head, descriptor) =>
    let words := Text.words head
    match words.getLast? with
    | none => .error .headerWithoutName
    | some name => .ok ⟨words.dropLast, name, Text.trim descriptor, []⟩

end Method

abbrev NumberedLine := Nat × Text

def atLine {α : Type} (n : Nat) : Except LineFault α → Except ReadError α
  | .ok a => .ok a
  | .error fault => .error (.malformed n fault)

def readEntries {α : Type} (read : Text → Except LineFault α) (entries : List NumberedLine) :
    Except ReadError (List α) :=
  entries.mapM fun (n, line) => atLine n (read line)

namespace Table

def read (entries : List NumberedLine) : Table → Except ReadError CodeItem
  | lineNumbers => (readEntries LineEntry.read entries).map .lineNumbers
  | localVariables => (readEntries VariableEntry.read entries).map .localVariables
  | localTypes => (readEntries VariableEntry.read entries).map .localTypes

def ofOpener? (line : Text) : Option Table :=
  if line = lineNumbers.opener then some lineNumbers
  else if line = localVariables.opener then some localVariables
  else if line = localTypes.opener then some localTypes
  else none

end Table

/-- The open block, with what has been read of it and of the blocks around it. -/
inductive OpenBlock where
  | none
  | method (method : Method)
  | code (method : Method) (code : Code)
  | table (method : Method) (code : Code) (table : Table) (entries : List NumberedLine)
deriving DecidableEq, Repr

namespace OpenBlock

def block? : OpenBlock → Option Block
  | none => .none
  | method _ => some .method
  | code .. => some .code
  | table _ _ t _ => some (.table t)

end OpenBlock

structure ReaderState where
  items : List ClassItem
  block : OpenBlock
deriving DecidableEq, Repr

namespace Method

def addAttribute (a : Attribute) (m : Method) : Method :=
  { m with attributes := m.attributes ++ [a] }

end Method

namespace Code

def addItem (i : CodeItem) (c : Code) : Code := { c with items := c.items ++ [i] }

end Code

namespace ReaderState

def initial : ReaderState := ⟨[], .none⟩

def addItem (i : ClassItem) (st : ReaderState) : ReaderState := ⟨st.items ++ [i], .none⟩

def classLine (n : Nat) (line : Text) (st : ReaderState) : Except ReadError ReaderState :=
  let trimmed := Text.trimEnd line
  match ".method ".toList.isPrefixOf? trimmed with
  | some header => (atLine n (Method.readHeader header)).map fun m => { st with block := .method m }
  | none =>
    match ".implements ".toList.isPrefixOf? trimmed with
    | some name => .ok (st.addItem (.implements (Text.trim name)))
    | none =>
      match ".signature ".toList.isPrefixOf? trimmed with
      | some value => .ok (st.addItem (.signature (.read value)))
      | none => .ok (st.addItem (.raw line))

def methodLine (n : Nat) (line : Text) (m : Method) (st : ReaderState) :
    Except ReadError ReaderState :=
  let trimmed := Text.trim line
  let add (a : Attribute) : Except ReadError ReaderState :=
    .ok { st with block := .method (m.addAttribute a) }
  if trimmed = Block.method.terminator then .ok (st.addItem (.method m))
  else match ".code ".toList.isPrefixOf? trimmed with
    | some sizes => (atLine n (Code.readSizes sizes)).map fun c => { st with block := .code m c }
    | none =>
      match ".signature ".toList.isPrefixOf? trimmed with
      | some value => add (.signature (.read value))
      | none =>
        match ".exceptions ".toList.isPrefixOf? trimmed with
        | some names => add (.exceptions (Text.words names))
        | none => add (.raw line)

def codeLine (line : Text) (m : Method) (c : Code) (st : ReaderState) : ReaderState :=
  let trimmed := Text.trim line
  if trimmed = Block.code.terminator then { st with block := .method (m.addAttribute (.code c)) }
  else match Table.ofOpener? trimmed with
    | some table => { st with block := .table m c table [] }
    | none =>
      match LabelledLine.read? line with
      | some l => { st with block := .code m (c.addItem (.instruction l)) }
      | none => { st with block := .code m (c.addItem (.raw line)) }

def tableLine (n : Nat) (line : Text) (m : Method) (c : Code) (table : Table)
    (entries : List NumberedLine) (st : ReaderState) : Except ReadError ReaderState :=
  if Text.trim line = table.terminator then
    (table.read entries).map fun item => { st with block := .code m (c.addItem item) }
  else .ok { st with block := .table m c table (entries ++ [(n, line)]) }

def step (n : Nat) (line : Text) (st : ReaderState) : Except ReadError ReaderState :=
  match st.block with
  | .none => st.classLine n line
  | .method m => st.methodLine n line m
  | .code m c => .ok (st.codeLine line m c)
  | .table m c table entries => st.tableLine n line m c table entries

def run (n : Nat) : List Text → ReaderState → Except ReadError ReaderState
  | [], st => .ok st
  | line :: lines, st => do
    let st ← st.step n line
    st.run (n + 1) lines

def finish (st : ReaderState) : Except ReadError ClassFile :=
  match st.block.block? with
  | some b => .error (.unexpectedEnd b)
  | none => .ok ⟨st.items⟩

end ReaderState

namespace ClassFile

/-- The lines of a text. A text that ends in a line break has an empty last line. -/
def textLines (s : Text) : List Text := (Text.split (· == '\n') s).map Text.dropReturn

def read (s : Text) : Except ReadError ClassFile := do
  let st ← ReaderState.initial.run 1 (textLines s)
  st.finish

end ClassFile
end ErasedBridges
