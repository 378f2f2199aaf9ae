import ErasedBridges.Shell.Reading

/-!
# Words of a script

A word goes on until a blank or an operator that stands neither in quotes nor in braces. Scripts
in words are read by a reader of scripts, which is a parameter.
-/

namespace ErasedBridges.Shell

open Reading

inductive Context where
  | bare
  /-- The word that ends a document. Nothing is substituted in it. -/
  | delimiter
  | quotes
  | braces
  /-- Braces in quotes, where single quotes mean nothing. -/
  | quotedBraces
  /-- Double quotes in such braces. -/
  | innerQuotes
  | document
  | arithmetic
deriving DecidableEq, Repr

namespace Context

def isQuoted : Context → Bool
  | bare | delimiter | braces => false
  | _ => true

/-- Whether a backslash takes its meaning from a character, and goes away itself. -/
def escapes (context : Context) (c : Char) : Bool :=
  !context.isQuoted || c == '\\' || c == '$' || c.toNat == 0x60 ||
    (c == '"' && context != .document) ||
    (c == '\x7d' && (context == .quotedBraces || context == .innerQuotes))

def unclosed? : Context → Option SyntaxProblem
  | bare | delimiter | document => none
  | quotes | innerQuotes | quotedBraces => some .unclosedQuote
  | braces => some (.missing "\x7d")
  | arithmetic => some (.missing "))")

def forWord (context : Context) (adjustment : Adjustment) : Context :=
  match adjustment with
  | .strip .. => .braces
  | _ => if context.isQuoted then .quotedBraces else .braces

end Context

def backquote : Char := Char.ofNat 0x60

def isMeta (c : Char) : Bool := " \t\n;&|()<>".toList.elem c

def takeBackquoted (quoted : Bool) : Nat → Text → Reading Text
  | 0, _ => fail .unclosedBackquote
  | fuel + 1, taken => do
    match ← nextJoined? with
    | none => fail .unclosedBackquote
    | some '\\' =>
      match ← next? with
      | none => fail .unclosedBackquote
      | some c =>
        let escaped := c == '\\' || c == '$' || c == backquote || (quoted && c == '"')
        takeBackquoted quoted fuel (if escaped then c :: taken else c :: '\\' :: taken)
    | some c =>
      if c = backquote then return taken.reverse else takeBackquoted quoted fuel (c :: taken)

def parameterName : Reading (Option Text) := do
  match ← peekJoined? with
  | none => return none
  | some c =>
    if isNameStart c then return some (← takeWhile isNameChar)
    else if c.isDigit then return some (← takeWhile Char.isDigit)
    else if isSpecialParameter c then
      let _ ← next?
      return some [c]
    else return none

/-- An adjustment after a name, whether an empty value counts for it, and whether braces are closed
with it. -/
def adjustment : Reading (Adjustment × Bool × Bool) := do
  let colon ← accept ':'
  let kinds : List (Char × Adjustment) :=
    [('-', .default), ('+', .alternative), ('=', .assign), ('?', .require)]
  match ← nextJoined? with
  | none => return (.bad, true, false)
  | some '\x7d' => return (.none, true, !colon)
  | some c =>
    match kinds.lookup c with
    | some kind => return (kind, !colon, false)
    | none =>
      if (c = '%' ∨ c = '#') ∧ !colon then return (.strip (c == '#') (← accept c), true, false)
      else return (.bad, true, false)

/-- What stands for the length of a parameter, from after the sign for it. Without such a
parameter the sign is one itself. -/
def lengthOf : Reading (Text × Adjustment × Bool × Bool) := do
  let before ← get
  let ofSign : Reading (Text × Adjustment × Bool × Bool) := do
    set before
    return (['#'], ← adjustment)
  match ← peekJoined? with
  | none => ofSign
  | some c =>
    if isNameChar c then
      let name := (← parameterName).getD []
      if ← accept '\x7d' then return (name, .length, true, true) else return (name, .bad, true, false)
    else
      let _ ← next?
      if c ≠ '\x7d' ∧ (← accept '\x7d') then
        return ([c], if isSpecialParameter c then .length else .bad, true, true)
      else ofSign

def braced : Reading (Text × Adjustment × Bool × Bool) := do
  if ← accept '#' then lengthOf
  else match ← parameterName with
    | some name => return (name, ← adjustment)
    | none =>
      -- A brace that closes at once is left for the end of the word.
      if (← peekJoined?) != some '\x7d' then
        let _ ← next?
      return ([], .bad, true, false)

mutual

/-- Parts of a word up to what ends them, and what closes them if they stand in something. The
parts that were read come in reverse; `depth` is how many parentheses are open. -/
def parts (script : Reading Script) : Nat → Context → Nat → List WordPart → Reading Word
  | 0, _, _, _ => fail .unclosedQuote
  | fuel + 1, context, depth, acc => do
    let go (part : WordPart) : Reading Word :=
      parts script fuel context depth (part :: acc)
    let plain (c : Char) (depth : Nat) : Reading Word :=
      parts script fuel context depth (match acc with
        | .plain s :: acc => .plain (c :: s) :: acc
        | acc => .plain [c] :: acc)
    let finished : Word := acc.reverse.map fun
      | .plain s => .plain s.reverse
      | part => part
    match ← peek? with
    | none =>
      match context.unclosed? with
      | none => return finished
      | some problem => fail problem
    | some c =>
      if (context = .bare ∨ context = .delimiter) ∧ isMeta c then return finished
      let _ ← next?
      if c = '\\' then
        match ← next? with
        | none => go (.literal ['\\'])
        | some '\n' => parts script fuel context depth acc
        | some d => go (.literal (if context.escapes d then [d] else ['\\', d]))
      else if c = '\'' ∧ !context.isQuoted then
        go (.literal (← takeUntil '\'' .unclosedQuote))
      else if c = '"' then
        match context with
        | .quotes | .innerQuotes => return finished
        | .document | .arithmetic => plain c depth
        | .quotedBraces => go (.quotes (← parts script fuel .innerQuotes 0 []))
        | _ => go (.quotes (← parts script fuel .quotes 0 []))
      else if c = '\x7d' ∧ (context = .braces ∨ context = .quotedBraces) then return finished
      else if c = '(' ∧ context = .arithmetic then plain c (depth + 1)
      else if c = ')' ∧ context = .arithmetic then
        if 0 < depth then plain c (depth - 1)
        else if ← accept ')' then return finished
        else plain c depth
      else if c = '$' ∧ context ≠ .delimiter then
        match ← dollar script fuel context with
        | some part => go part
        | none => plain c depth
      else if c = backquote ∧ context ≠ .delimiter then
        let text ← takeBackquoted context.isQuoted ((← get).rest.length + 1) []
        go (.output (← within 1 text script))
      else plain c depth

def dollar (script : Reading Script) : Nat → Context → Reading (Option WordPart)
  | 0, _ => return none
  | fuel + 1, context => do
    if ← accept '(' then
      if ← accept '(' then
        return some (.arithmetic (← parts script fuel .arithmetic 0 []))
      else
        let announced := (← get).announced
        modify ({ · with announced := [] })
        let s ← script
        let t := (← get).ahead.getD .ending
        match t with
        | .operator [')'] =>
          modify ({ · with announced, ahead := none })
          return some (.output s)
        | t => fail (.unexpected t (some (.operator [')'])))
    else if ← accept '\x7b' then
      let (name, adjustment, emptyCounts, closed) ← braced
      let word ← if closed then pure []
        else parts script fuel (context.forWord adjustment) 0 []
      return some (.parameter name adjustment emptyCounts word)
    else match ← peekJoined? with
      | none => return none
      | some c =>
        if c.isDigit || isSpecialParameter c then
          let _ ← next?
          return some (.parameter [c] .none true [])
        else return (← parameterName).map fun name => .parameter name .none true []

end

def wordFuel : Reading Nat := return 2 * (← get).rest.length + 8

def operator? : Reading (Option Text) := do
  match ← peekJoined? with
  | some c =>
    if !";&|()".toList.elem c then return none
    let _ ← next?
    if c = '(' ∨ c = ')' then return some [c]
    return some (if ← accept c then [c, c] else [c])
  | none => return none

def redirection (sign : Char) (given : Option Nat) : Reading Token := do
  let descriptor := given.getD (if sign = '>' then 1 else 0)
  if sign = '>' then
    if ← accept '>' then return .redirect descriptor .append
    if ← accept '|' then return .redirect descriptor .clobber
    if ← accept '&' then return .redirect descriptor .duplicate
    return .redirect descriptor .output
  else
    if ← accept '<' then return .document descriptor (← accept '-')
    if ← accept '&' then return .redirect descriptor .duplicate
    if ← accept '>' then return .redirect descriptor .both
    return .redirect descriptor .input

/-- The lines of a document, and the text after the line that ends it. A line that the next one is
joined to by a backslash is one with it. -/
def documentLines (d : Announced) : Nat → Bool → Text → Text × Text
  | 0, _, s => ([], s)
  | _ + 1, _, [] => ([], [])
  | fuel + 1, joined, s =>
    let s := if d.tabs && !joined then s.dropWhile (· == '\t') else s
    let line := s.takeWhile (· != '\n')
    let ended := (s.drop line.length).take 1
    let rest := s.drop (line.length + 1)
    if line = d.stop ∧ !joined then ([], rest)
    else
      let slashes := (line.reverse.takeWhile (· == '\\')).length
      let (text, rest) := documentLines d fuel (!d.literal && slashes % 2 = 1) rest
      (line ++ ended ++ text, rest)

def takeDocuments (script : Reading Script) : Reading Unit := do
  let announced := (← get).announced
  modify ({ · with announced := [] })
  announced.forM fun d => do
    let c ← get
    let (text, rest) := documentLines d (c.rest.length + 1) false c.rest
    let body ← if d.literal then pure [WordPart.literal text]
      else within c.line text (do parts script (← wordFuel) .document 0 [])
    modify fun after => { after with
      rest
      line := c.line + (c.rest.take (c.rest.length - rest.length)).count '\n'
      documents := (d.index, body) :: after.documents }

def skipBlanks : Reading Unit := do
  let _ ← takeWhile fun c => c == ' ' || c == '\t'
  if (← peek?) == some '#' then
    modify fun c => { c with rest := c.rest.dropWhile (· != '\n') }

def readToken (script : Reading Script) (context : Context) : Reading Token := do
  skipBlanks
  match ← peek? with
  | none =>
    takeDocuments script
    return .ending
  | some '\n' =>
    let _ ← next?
    takeDocuments script
    return .newline
  | some c =>
    match ← operator? with
    | some o => return .operator o
    | none =>
      if c = '<' ∨ c = '>' then
        let _ ← next?
        redirection c none
      else
        let w ← parts script (← wordFuel) context 0 []
        match w, ← peek? with
        | [.plain [d]], some sign =>
          if d.isDigit ∧ (sign = '<' ∨ sign = '>') then
            let _ ← next?
            redirection sign (some (d.toNat - 48))
          else return .word w
        | w, _ => return .word w

end ErasedBridges.Shell
