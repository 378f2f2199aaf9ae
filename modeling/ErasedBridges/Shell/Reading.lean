import ErasedBridges.Shell.Syntax

/-!
# Reading scripts

A script is read character by character, and one complete command at a time: what comes after it
is not looked at before it has been run. The text of a document is taken when its line is over.
-/

namespace ErasedBridges.Shell

inductive Token where
  | word (w : Word)
  | redirect (descriptor : Nat) (kind : RedirectKind)
  /-- A document is to follow; tabs at the start of its lines do not count if `tabs` is set. -/
  | document (descriptor : Nat) (tabs : Bool)
  | operator (s : Text)
  | newline
  | ending

def reserved : List Text :=
  ["if", "then", "elif", "else", "fi", "while", "until", "for", "in", "do", "done", "case", "esac",
    "!", "\x7b", "\x7d"].map String.toList

inductive SyntaxProblem where
  | unclosedQuote
  | unclosedBackquote
  /-- The characters that should have come. -/
  | missing (closing : String)
  | badLoopVariable
  | badFunctionName
  | badDescriptor
  | unexpected (found : Token) (expected : Option Token)

structure SyntaxFault where
  line : Nat
  problem : SyntaxProblem

namespace SyntaxProblem

def describe : Token → Text
  | .ending => "end of file".toList
  | .newline => "newline".toList
  | .operator s => '"' :: s ++ ['"']
  | .redirect .. | .document .. => "redirection".toList
  | .word w =>
    match Word.plain? w with
    | some s => if reserved.elem s then '"' :: s ++ ['"'] else "word".toList
    | none => "word".toList

def words : SyntaxProblem → Text
  | unclosedQuote => "Unterminated quoted string".toList
  | unclosedBackquote => "EOF in backquote substitution".toList
  | missing closing => "Missing '".toList ++ closing.toList ++ ['\'']
  | badLoopVariable => "Bad for loop variable".toList
  | badFunctionName => "Bad function name".toList
  | badDescriptor => "Bad fd number".toList
  | unexpected found expected =>
    describe found ++ " unexpected".toList ++
      match expected with
      | some t => " (expecting ".toList ++ describe t ++ [')']
      | none => []

def message (p : SyntaxProblem) : Text := "Syntax error: ".toList ++ p.words

end SyntaxProblem

/-- A document that was announced: the line that ends it, whether it is taken as it is, and
whether tabs at the start of its lines count. -/
structure Announced where
  index : Nat
  stop : Text
  literal : Bool
  tabs : Bool

/-- An alias whose text is being read, and how much is left after it. The word after a text that
ends with a blank may be an alias too. -/
structure OpenedAlias where
  name : Text
  left : Nat
  endsBlank : Bool

structure Cursor where
  rest : Text
  line : Nat
  /-- The token that comes next, if it was looked at. -/
  ahead : Option Token
  announced : List Announced
  /-- The documents that were read, by number. -/
  documents : List (Nat × Word)
  nextDocument : Nat
  aliases : List (Text × Text)
  /-- The aliases whose text is being read. -/
  opened : List OpenedAlias

abbrev Reading := StateT Cursor (Except SyntaxFault)

namespace Reading

def fail {α : Type} (problem : SyntaxProblem) : Reading α := do
  throw ⟨(← get).line, problem⟩

def peek? : Reading (Option Char) := return (← get).rest.head?

def next? : Reading (Option Char) := do
  let c ← get
  match c.rest with
  | [] => return none
  | ch :: rest =>
    set { c with rest, line := if ch = '\n' then c.line + 1 else c.line }
    return some ch

/-- A line break after a backslash is as if it were not there. -/
def joinLines : Nat → Text → Nat × Text
  | line, '\\' :: '\n' :: s => joinLines (line + 1) s
  | line, s => (line, s)

def skipJoins : Reading Unit := modify fun c =>
  let (line, rest) := joinLines c.line c.rest
  { c with line, rest }

def peekJoined? : Reading (Option Char) := do
  skipJoins
  peek?

def nextJoined? : Reading (Option Char) := do
  skipJoins
  next?

def accept (ch : Char) : Reading Bool := do
  if (← peekJoined?) == some ch then
    let _ ← next?
    return true
  else return false

def takeJoined (p : Char → Bool) : Nat → Text → Reading Text
  | 0, taken => return taken.reverse
  | fuel + 1, taken => do
    match ← peekJoined? with
    | some c =>
      if p c then
        let _ ← next?
        takeJoined p fuel (c :: taken)
      else return taken.reverse
    | none => return taken.reverse

def takeWhile (p : Char → Bool) : Reading Text := do
  takeJoined p ((← get).rest.length + 1) []

def takeUntil (stop : Char) (missing : SyntaxProblem) : Reading Text := do
  let c ← get
  let taken := c.rest.takeWhile (· != stop)
  let line := c.line + taken.count '\n'
  match c.rest.drop taken.length with
  | [] =>
    set { c with rest := [], line }
    fail missing
  | _ :: rest =>
    set { c with rest, line }
    return taken

/-- Reads another text in the place of this one. Lines are counted anew in it. -/
def within {α : Type} (line : Nat) (text : Text) (body : Reading α) : Reading α := do
  let outer ← get
  set { outer with rest := text, line, ahead := none, announced := [], opened := [] }
  let a ← body
  modify fun inner => { outer with
    documents := inner.documents
    nextDocument := inner.nextDocument }
  return a

end Reading
end ErasedBridges.Shell
