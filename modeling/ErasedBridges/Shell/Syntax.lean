import ErasedBridges.Text.Basic

/-!
# Shell scripts

The command language: lists, pipelines, loops, conditions, functions, redirections, quotes and
substitutions. A word keeps its quotes, as they decide what becomes of its parts. The text of a
document follows the line of its redirection, so redirections name documents by number.
-/

namespace ErasedBridges.Shell

inductive Adjustment where
  | none
  /-- The word where there is no value. -/
  | default
  /-- The word where there is a value, and nothing otherwise. -/
  | alternative
  /-- A default, which becomes the value. -/
  | assign
  /-- Without a value the script ends. -/
  | require
  | length
  /-- The value without what the word matches at its start or, otherwise, at its end. -/
  | strip (atStart longest : Bool)
  /-- A substitution that makes no sense, which is told when it is to be done. -/
  | bad
deriving DecidableEq, Repr

inductive RedirectKind where
  | input
  | output
  /-- Output that may always take the place of a file. -/
  | clobber
  | append
  | both
  | duplicate
  | document (index : Nat)
deriving DecidableEq, Repr

mutual

inductive WordPart where
  | plain (s : Text)
  /-- Text in single quotes or after a backslash. -/
  | literal (s : Text)
  /-- What stands in double quotes. -/
  | quotes (parts : List WordPart)
  /-- An empty value counts as a value only if `emptyCounts` says so. -/
  | parameter (name : Text) (adjustment : Adjustment) (emptyCounts : Bool) (word : List WordPart)
  | arithmetic (expression : List WordPart)
  /-- What a script writes. -/
  | output (script : Script)

inductive Redirect where
  | mk (descriptor : Nat) (kind : RedirectKind) (target : List WordPart)

inductive Script where
  | simple (line : Nat) (assignments : List (Text × List WordPart)) (words : List (List WordPart))
      (redirects : List Redirect)
  | sequence (scripts : List Script)
  | background (script : Script)
  | both (first second : Script)
  | either (first second : Script)
  | negate (script : Script)
  | pipe (stages : List Script)
  /-- Repeats the body as long as the condition succeeds or, otherwise, fails. -/
  | loop (onSuccess : Bool) (condition body : Script)
  | choose (condition yes : Script) (no : Option Script)
  /-- Runs the first branch of which a pattern matches the word. -/
  | select (line : Nat) (word : List WordPart) (branches : List (List (List WordPart) × Script))
  | forEach (line : Nat) (name : Text) (words : List (List WordPart)) (body : Script)
  | define (name : Text) (body : Script)
  | subshell (line : Nat) (script : Script) (redirects : List Redirect)
  | redirected (line : Nat) (script : Script) (redirects : List Redirect)

end

abbrev Word := List WordPart

namespace Word

def plain? : Word → Option Text
  | [] => some []
  | .plain s :: w => (plain? w).map (s ++ ·)
  | _ => none

def unquoted (w : Word) : Text := w.flatMap part
where
  part : WordPart → Text
    | .plain s | .literal s => s
    | .quotes ps => inside ps
    | _ => []
  inside : List WordPart → Text
    | [] => []
    | .plain s :: ps | .literal s :: ps => s ++ inside ps
    | _ :: ps => inside ps

def hasQuotes (w : Word) : Bool := w.any fun
  | .literal _ | .quotes _ => true
  | _ => false

end Word

def isNameStart (c : Char) : Bool := c.isAlpha || c == '_'

def isNameChar (c : Char) : Bool := c.isAlphanum || c == '_'

def isName : Text → Bool
  | [] => false
  | c :: s => isNameStart c && s.all isNameChar

def Word.assignment? : Word → Option (Text × Word)
  | .plain s :: w =>
    match s.span isNameChar with
    | (name, '=' :: value) =>
      if isName name then some (name, if value.isEmpty then w else .plain value :: w) else none
    | _ => none
  | _ => none

def specialCommands : List Text :=
  [".", ":", "break", "continue", "eval", "exec", "exit", "export", "local", "readonly", "return",
    "set", "shift", "times", "trap", "unset"].map String.toList

def isSpecialParameter (c : Char) : Bool := "@*#?-$!".toList.elem c

end ErasedBridges.Shell
