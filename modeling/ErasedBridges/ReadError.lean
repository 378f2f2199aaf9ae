import ErasedBridges.Text.Decimal

/-!
# Why a class text, a descriptor or a signature cannot be read

Each cause keeps what its message shows. Line numbers count from one.
-/

namespace ErasedBridges

inductive Table where
  | lineNumbers
  | localVariables
  | localTypes
deriving DecidableEq, Repr

namespace Table

def name : Table → Text
  | lineNumbers => "linenumbertable".toList
  | localVariables => "localvariabletable".toList
  | localTypes => "localvariabletypetable".toList

def opener (t : Table) : Text := '.' :: t.name

def terminator (t : Table) : Text := ".end ".toList ++ t.name

end Table

/-- The blocks of a class text that a line of their own closes. -/
inductive Block where
  | method
  | code
  | table (table : Table)
deriving DecidableEq, Repr

namespace Block

def terminator : Block → Text
  | method => ".end method".toList
  | code => ".end code".toList
  | table t => t.terminator

end Block

inductive LineFault where
  | headerWithoutColon
  | headerWithoutName
  | sizes (text : Text)
  | number (text : Text)
  | lineEntry (text : Text)
  | variableEntry (text : Text)
deriving DecidableEq, Repr

namespace LineFault

def message : LineFault → Text
  | headerWithoutColon => "method header without ` : `".toList
  | headerWithoutName => "method header without a name".toList
  | sizes s => "bad .code sizes `".toList ++ s ++ "`".toList
  | number s => "expected a number, found `".toList ++ s ++ "`".toList
  | lineEntry s => "bad line number entry `".toList ++ s ++ "`".toList
  | variableEntry s => "bad local variable entry `".toList ++ s ++ "`".toList

end LineFault

inductive ReadError where
  /-- The text ended while the block was open. -/
  | unexpectedEnd (block : Block)
  | malformed (line : Nat) (fault : LineFault)
  | descriptor (text : Text)
  | signature (text : Text)
deriving DecidableEq, Repr

namespace ReadError

def message : ReadError → Text
  | unexpectedEnd b => "unexpected end of input: expected ".toList ++ b.terminator
  | malformed n fault =>
    "line ".toList ++ Text.decimal n ++ ": ".toList ++ fault.message
  | descriptor s => "invalid descriptor: ".toList ++ s
  | signature s => "invalid signature: ".toList ++ s

end ReadError
end ErasedBridges
