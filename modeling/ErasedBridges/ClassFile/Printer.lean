import ErasedBridges.ClassFile.Basic

/-!
# Printing a class text

A class prints as a list of lines. Lines that were taken apart come out in the disassembler's
layout, all others as they stand.
-/

namespace ErasedBridges

namespace SignatureText

def text (s : SignatureText) : Text :=
  match s.quote with
  | none => s.value
  | some q => q.char :: (s.value ++ [q.char])

end SignatureText

namespace LabelledLine

/-- The instruction starts in the ninth column, or one blank after a longer label. -/
def printed (l : LabelledLine) : Text :=
  let label := l.label ++ [':']
  if l.text.isEmpty then label else Text.padRight 7 label ++ ' ' :: l.text

end LabelledLine

namespace LineEntry

def printed (e : LineEntry) : Text := e.label ++ ' ' :: Text.decimal e.line

end LineEntry

namespace VariableEntry

def printed (e : VariableEntry) : Text :=
  Text.decimal e.index ++ " is ".toList ++ e.name ++ ' ' :: e.descriptor ++ " from ".toList ++
    e.start ++ " to ".toList ++ e.stop

end VariableEntry

/-- The blanks before the lines of an attribute, before a table and before its entries. -/
def attributeIndent : Text := List.replicate 4 ' '

def tableIndent : Text := List.replicate 8 ' '

def entryIndent : Text := List.replicate 12 ' '

def tableLines (table : Table) (entries : List Text) : List Text :=
  (tableIndent ++ table.opener) :: entries.map (entryIndent ++ ·) ++
    [tableIndent ++ table.terminator]

namespace CodeItem

def lines : CodeItem → List Text
  | instruction l => [l.printed]
  | lineNumbers es => tableLines .lineNumbers (es.map LineEntry.printed)
  | localVariables es => tableLines .localVariables (es.map VariableEntry.printed)
  | localTypes es => tableLines .localTypes (es.map VariableEntry.printed)
  | raw line => [line]

end CodeItem

namespace Code

def lines (c : Code) : List Text :=
  (attributeIndent ++ ".code stack ".toList ++ Text.decimal c.stack ++ " locals ".toList ++
      Text.decimal c.locals) ::
    (c.items.flatMap CodeItem.lines ++ [attributeIndent ++ Block.code.terminator])

end Code

namespace Attribute

def lines : Attribute → List Text
  | code c => c.lines
  | signature s => [attributeIndent ++ ".signature ".toList ++ s.text]
  | exceptions names => [attributeIndent ++ ".exceptions ".toList ++ Text.join [' '] names]
  | raw line => [line]

end Attribute

namespace Method

def header (m : Method) : Text :=
  ".method ".toList ++ (m.flags.flatMap (· ++ [' ']) ++ m.name ++ " : ".toList ++ m.descriptor)

def lines (m : Method) : List Text :=
  m.header :: (m.attributes.flatMap Attribute.lines ++ [Block.method.terminator])

def printed (m : Method) : Text := Text.join ['\n'] m.lines

end Method

namespace ClassItem

def lines : ClassItem → List Text
  | implements name => [".implements ".toList ++ name]
  | signature s => [".signature ".toList ++ s.text]
  | method m => m.lines
  | raw line => [line]

end ClassItem

namespace ClassFile

def lines (c : ClassFile) : List Text := c.items.flatMap ClassItem.lines

def printed (c : ClassFile) : Text := Text.join ['\n'] c.lines

end ClassFile
end ErasedBridges
