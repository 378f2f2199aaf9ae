import ErasedBridges.Host.Path

/-!
# Command templates

An argument holds placeholders in braces. Filling it in is one pass: values are copied as they
are, and braces in them mean nothing.
-/

namespace ErasedBridges

structure CommandSpec where
  cwd : Path
  program : Text
  args : List Text
deriving DecidableEq, Repr

namespace CommandSpec

/-- An argument as shown: in quotes if it has a blank or a tab. -/
def shownArgument (arg : Text) : Text :=
  if arg.any fun c => c == ' ' || c == '\t' then
    '"' :: (arg.flatMap (fun c => if c == '"' then ['\\', '"'] else [c]) ++ ['"'])
  else arg

/-- For readers, not for a shell. -/
def shown (c : CommandSpec) : Text :=
  c.program ++ c.args.flatMap fun arg => ' ' :: shownArgument arg

end CommandSpec

inductive TemplateFault where
  | empty
  | unclosed (argument : Text)
  | unknown (name : Text)
deriving DecidableEq, Repr

namespace TemplateFault

def message : TemplateFault → Text
  | empty => "command is empty".toList
  | unclosed argument => "unclosed placeholder in `".toList ++ argument ++ "`".toList
  | unknown name => "unknown placeholder \x7b".toList ++ name ++ ['\x7d']

end TemplateFault

/-- The program comes first. -/
abbrev CommandTemplate := List Text

namespace CommandTemplate

/-- Values of placeholders. The first of a name counts. -/
abbrev Values := List (Text × Text)

def fillRest (values : Values) (argument : Text) (s : Text) : Except TemplateFault Text :=
  match s with
  | [] => .ok []
  | '\x7b' :: s =>
    match _h : Text.cut? ['\x7d'] s with
    | none => .error (.unclosed argument)
    | some (name, rest) =>
      match values.lookup name with
      | none => .error (.unknown name)
      | some value => (fillRest values argument rest).map (value ++ ·)
  | c :: s => (fillRest values argument s).map (c :: ·)
termination_by s.length
decreasing_by
  · rw [← Text.cut?_append _h]; simp; omega
  · simp

def fill (values : Values) (argument : Text) : Except TemplateFault Text :=
  fillRest values argument argument

def render (template : CommandTemplate) (cwd : Path) (values : Values) :
    Except TemplateFault CommandSpec :=
  match template with
  | [] => .error .empty
  | program :: args => do
    let program ← fill values program
    let args ← args.mapM (fill values)
    return ⟨cwd, program, args⟩

end CommandTemplate
end ErasedBridges
