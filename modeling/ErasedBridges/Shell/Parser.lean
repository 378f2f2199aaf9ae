import ErasedBridges.Shell.Lexer

/-!
# Parsing scripts

The grammar of commands. A keyword is one only where a command may start, so the tokens are words
until someone asks. Every rule looks at the next token, and takes it if it can go on with it.
-/

namespace ErasedBridges.Shell

namespace Token

def ofKeyword (s : String) : Token := .word [.plain s.toList]

def keyword? : Token → Option Text
  | word w => (Word.plain? w).filter reserved.elem
  | _ => none

def isKeyword (s : String) (t : Token) : Bool := t.keyword? == some s.toList

def isOperator (s : String) : Token → Bool
  | operator o => o == s.toList
  | _ => false

def isClosing (t : Token) : Bool :=
  match t with
  | ending => true
  | operator o => o == [')'] || o == [';', ';']
  | t => ["do", "done", "elif", "else", "esac", "fi", "then", "\x7d"].any t.isKeyword

end Token

abbrev ReadingWith (α : Type) := Reading Script → Reading α

namespace Reading

def unexpected {α : Type} (found : Token) (expected : Option Token) : Reading α :=
  fail (.unexpected found expected)

def drop : Reading Unit := modify ({ · with ahead := none })

/-- The text of an alias in the place of its name. No alias is taken for itself in its text. -/
def openAlias (name value : Text) : Reading Unit := modify fun c =>
  let blank := value.getLast?.any fun ch => ch == ' ' || ch == '\t'
  { c with
    rest := value ++ c.rest
    opened := ⟨name, c.rest.length, blank⟩ :: c.opened }

/-- The next token, which stays. Line breaks are skipped and aliases replaced on demand. -/
def lookWithin (script : Reading Script) (newlines aliases : Bool) : Nat → Reading Token
  | 0 => return .ending
  | fuel + 1 => do
    let keep (t : Token) : Reading Token := do
      modify ({ · with ahead := some t })
      return t
    let before ← get
    match before.ahead with
    | some .newline =>
      if newlines then
        drop
        lookWithin script newlines aliases fuel
      else return .newline
    | some t => return t
    | none =>
      skipBlanks
      let start := (← get).rest.length
      let (opened, closed) := before.opened.partition fun a => a.left < start
      modify ({ · with opened })
      let aliases := aliases || closed.any (·.endsBlank)
      let t ← readToken script .bare
      match t with
      | .newline => if newlines then lookWithin script newlines aliases fuel else keep t
      | .word w =>
        let name := if aliases && t.keyword?.isNone then Word.plain? w else none
        match name.bind fun name => (before.aliases.lookup name).map (name, ·) with
        | some (name, value) =>
          if opened.any (·.name == name) then keep t
          else
            openAlias name value
            lookWithin script newlines aliases fuel
        | none => keep t
      | t => keep t

def look (newlines aliases : Bool) : ReadingWith Token := fun script => do
  let c ← get
  lookWithin script newlines aliases (c.rest.length + 0x10000)

def takeIf (newlines aliases : Bool) (p : Token → Bool) : ReadingWith Bool := fun script => do
  if p (← look newlines aliases script) then
    drop
    return true
  else return false

def expectKeyword (s : String) : ReadingWith Unit := fun script => do
  let t ← look true true script
  if t.isKeyword s then drop else unexpected t (some (.ofKeyword s))

def target (t : Token) : ReadingWith (Option Redirect) := fun script => do
  match t with
  | .redirect descriptor kind =>
    match ← readToken script .bare with
    | .word w => return some (.mk descriptor kind w)
    | t => unexpected t none
  | .document descriptor tabs =>
    match ← readToken script .delimiter with
    | .word w =>
      let index := (← get).nextDocument
      modify fun c => { c with
        nextDocument := index + 1
        announced := c.announced ++ [⟨index, Word.unquoted w, Word.hasQuotes w, tabs⟩] }
      return some (.mk descriptor (.document index) [])
    | t => unexpected t none
  | _ => return none

def redirects : Nat → ReadingWith (List Redirect)
  | 0, _ => return []
  | fuel + 1, script => do
    let t ← look false true script
    match t with
    | .redirect .. | .document .. =>
      drop
      let r ← target t script
      return r.toList ++ (← redirects fuel script)
    | _ => return []

def words : Nat → ReadingWith (List Word)
  | 0, _ => return []
  | fuel + 1, script => do
    match ← look false false script with
    | .word w =>
      drop
      return w :: (← words fuel script)
    | _ => return []

def tokenFuel : Reading Nat := return (← get).rest.length + 2

/-- What a simple command is made up of; the parts that were read come in reverse. -/
structure SimpleCommand where
  assignments : List (Text × Word)
  words : List Word
  redirects : List Redirect

/-- Goes on with a simple command. Settings of variables stand before its words. -/
def simpleCommand : Nat → SimpleCommand → ReadingWith SimpleCommand
  | 0, c, _ => return c
  | fuel + 1, c, script => do
    let t ← look false c.words.isEmpty script
    match t with
    | .word w =>
      drop
      match c.words, Word.assignment? w with
      | [], some a => simpleCommand fuel { c with assignments := a :: c.assignments } script
      | _, _ => simpleCommand fuel { c with words := w :: c.words } script
    | .redirect .. | .document .. =>
      drop
      let r ← target t script
      simpleCommand fuel { c with redirects := r.toList ++ c.redirects } script
    | _ => return c

def patterns : Nat → ReadingWith (List Word)
  | 0, _ => return []
  | fuel + 1, script => do
    let pattern := match ← look false false script with
      | .word w => w
      | _ => []
    drop
    let t ← look true false script
    if t.isOperator "|" then
      drop
      return pattern :: (← patterns fuel script)
    else if t.isOperator ")" then
      drop
      return [pattern]
    else unexpected t (some (.operator [')']))

/-- The words that a variable goes through: those after a keyword, or else the arguments. -/
def loopWords : ReadingWith (List Word) := fun script => do
  if ← takeIf true true (·.isKeyword "in") script then
    let ws ← words (← tokenFuel) script
    let t ← look false false script
    match t with
    | .newline => drop
    | t => if t.isOperator ";" then drop else unexpected t none
    return ws
  else
    let _ ← takeIf true true (·.isOperator ";") script
    return [[.quotes [.parameter ['@'] .none true []]]]

end Reading

open Reading

mutual

/-- Commands up to what closes the list. A complete command ends with its line, and nothing else
may close it. -/
def list : Nat → (complete mayEnd : Bool) → List Script → Reading (List Script)
  | 0, _, _, _ => unexpected .ending none
  | fuel + 1, complete, mayEnd, acc => do
    let script := nested fuel
    let t ← look (!complete) true script
    match t with
    | .newline =>
      drop
      return acc.reverse
    | .ending => return acc.reverse
    | _ =>
      if mayEnd && !complete && t.isClosing then return acc.reverse
      let s ← chain fuel
      let t ← look false false script
      if t.isOperator "&" then
        drop
        list fuel complete true (.background s :: acc)
      else if t.isOperator ";" then
        drop
        list fuel complete true (s :: acc)
      else match t with
        | .newline => list fuel complete true (s :: acc)
        | .ending => return (s :: acc).reverse
        | t => if complete then unexpected t none else return (s :: acc).reverse

def nested : Nat → Reading Script
  | 0 => unexpected .ending none
  | fuel + 1 => return .sequence (← list fuel false true [])

def commands : Nat → Reading Script
  | 0 => unexpected .ending none
  | fuel + 1 => return .sequence (← list fuel false false [])

def chain : Nat → Reading Script
  | 0 => unexpected .ending none
  | fuel + 1 => do chainFrom fuel (← pipeline fuel)

def chainFrom : Nat → Script → Reading Script
  | 0, _ => unexpected .ending none
  | fuel + 1, first => do
    let script := nested fuel
    let t ← look false false script
    if t.isOperator "&&" then
      drop
      let _ ← look true true script
      chainFrom fuel (.both first (← pipeline fuel))
    else if t.isOperator "||" then
      drop
      let _ ← look true true script
      chainFrom fuel (.either first (← pipeline fuel))
    else return first

def pipeline : Nat → Reading Script
  | 0 => unexpected .ending none
  | fuel + 1 => do
    let script := nested fuel
    let negated ← takeIf false true (·.isKeyword "!") script
    let first ← command fuel
    let later ← stages fuel
    let s := if later.isEmpty then first else .pipe (first :: later)
    return if negated then .negate s else s

def stages : Nat → Reading (List Script)
  | 0 => unexpected .ending none
  | fuel + 1 => do
    let script := nested fuel
    if ← takeIf false false (·.isOperator "|") script then
      let _ ← look true true script
      let s ← command fuel
      return s :: (← stages fuel)
    else return []

def command : Nat → Reading Script
  | 0 => unexpected .ending none
  | fuel + 1 => do
    let script := nested fuel
    let t ← look false true script
    let line := (← get).line
    let closedBy (s : Script) (closing : Token) (found : Token → Bool) : Reading Script := do
      let t ← look true true script
      unless found t do unexpected t (some closing)
      drop
      match s, ← redirects (← tokenFuel) script with
      | .subshell line s _, rs => return .subshell line s rs
      | s, [] => return s
      | s, rs => return .redirected line s rs
    let closedByWord (s : Script) (closing : String) : Reading Script :=
      closedBy s (.ofKeyword closing) (·.isKeyword closing)
    match t, t.keyword?.map String.ofList with
    | .word _, some "if" =>
      drop
      closedByWord (← choice fuel) "fi"
    | .word _, some "while" =>
      drop
      closedByWord (← loop fuel true) "done"
    | .word _, some "until" =>
      drop
      closedByWord (← loop fuel false) "done"
    | .word _, some "for" =>
      drop
      closedByWord (← forEach fuel line) "done"
    | .word _, some "case" =>
      drop
      closedByWord (← selection fuel line) "esac"
    | .word _, some "\x7b" =>
      drop
      closedByWord (← commands fuel) "\x7d"
    | .word _, some _ => unexpected t none
    | .operator ['('], _ =>
      drop
      closedBy (.subshell line (← commands fuel) []) (.operator [')']) (·.isOperator ")")
    | .word _, none | .redirect .., _ | .document .., _ =>
      let c ← simpleCommand (← tokenFuel) ⟨[], [], []⟩ script
      let t ← look false false script
      match c, t.isOperator "(" with
      | ⟨[], [name], []⟩, true =>
        drop
        function fuel name
      | _, _ => return .simple line c.assignments.reverse c.words.reverse c.redirects.reverse
    | t, _ => unexpected t none

def function : Nat → Word → Reading Script
  | 0, _ => unexpected .ending none
  | fuel + 1, name => do
    let script := nested fuel
    let t ← look false false script
    unless t.isOperator ")" do unexpected t (some (.operator [')']))
    drop
    let name := (Word.plain? name).getD []
    if !isName name || specialCommands.elem name then fail .badFunctionName
    let _ ← look true true script
    return .define name (← command fuel)

def choice : Nat → Reading Script
  | 0 => unexpected .ending none
  | fuel + 1 => do
    let script := nested fuel
    let condition ← commands fuel
    expectKeyword "then" script
    let yes ← commands fuel
    let t ← look true true script
    if t.isKeyword "elif" then
      drop
      return .choose condition yes (some (← choice fuel))
    else if t.isKeyword "else" then
      drop
      return .choose condition yes (some (← commands fuel))
    else return .choose condition yes none

def loop : Nat → Bool → Reading Script
  | 0, _ => unexpected .ending none
  | fuel + 1, onSuccess => do
    let condition ← commands fuel
    expectKeyword "do" (nested fuel)
    return .loop onSuccess condition (← commands fuel)

def forEach : Nat → Nat → Reading Script
  | 0, _ => unexpected .ending none
  | fuel + 1, line => do
    let script := nested fuel
    match ← look false false script with
    | .word w =>
      let some name := (Word.plain? w).filter isName | fail .badLoopVariable
      drop
      let ws ← loopWords script
      expectKeyword "do" script
      return .forEach line name ws (← commands fuel)
    | _ => fail .badLoopVariable

def selection : Nat → Nat → Reading Script
  | 0, _ => unexpected .ending none
  | fuel + 1, line => do
    let script := nested fuel
    match ← look false false script with
    | .word subject =>
      drop
      expectKeyword "in" script
      return .select line subject (← branches fuel)
    | t => unexpected t (some (.word []))

def branches : Nat → Reading (List (List Word × Script))
  | 0 => unexpected .ending none
  | fuel + 1 => do
    let script := nested fuel
    let t ← look true false script
    if t.isKeyword "esac" then return []
    if t.isOperator "(" then drop
    let ps ← patterns (← tokenFuel) script
    let body ← nested fuel
    let t ← look true false script
    if t.isKeyword "esac" then return [(ps, body)]
    unless t.isOperator ";;" do unexpected t (some (.operator [';', ';']))
    drop
    return (ps, body) :: (← branches fuel)

end

def Cursor.start (text : Text) (aliases : List (Text × Text)) (nextDocument : Nat) : Cursor :=
  { rest := text, line := 1, ahead := none, announced := [], documents := [], nextDocument, aliases,
    opened := [] }

def completeCommand : Reading (Option Script) := do
  let fuel := 8 * (← get).rest.length + 0x10000
  let script := nested fuel
  match ← look false true script with
  | .ending => return none
  | _ => return some (.sequence (← list fuel true false []))

end ErasedBridges.Shell
