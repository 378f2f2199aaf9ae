import ErasedBridges.Descriptor.Scan

/-!
# Type variables inside a descriptor

A walk meets every reference to a type variable, from left to right and at any depth, and may
put other text in its place. Brackets that hold no list of type arguments break it off, and the
names met until then are kept.
-/

namespace ErasedBridges

/-- The names met, in order, and the result unless the walk broke off. -/
structure Walk (α : Type) where
  seen : List Text
  result : Option α
deriving DecidableEq, Repr

namespace Walk

def done {α : Type} (a : α) : Walk α := ⟨[], some a⟩

def broken {α : Type} : Walk α := ⟨[], none⟩

def bind {α β : Type} (w : Walk α) (f : α → Walk β) : Walk β :=
  match w.result with
  | none => ⟨w.seen, none⟩
  | some a => ⟨w.seen ++ (f a).seen, (f a).result⟩

def map {α β : Type} (f : α → β) (w : Walk α) : Walk β := ⟨w.seen, w.result.map f⟩

def cons (c : Char) (w : Walk Text) : Walk Text := w.map (c :: ·)

end Walk

namespace Descriptor

mutual

def walkToken (f : Text → Option Text) : Text → Walk Text
  | [] => .broken
  | '[' :: s => (walkToken f s).cons '['
  | 'T' :: s =>
    match Text.dropEnd? [';'] s with
    | some name => ⟨[name], some ((f name).getD ('T' :: s))⟩
    | none => .broken
  | 'L' :: s => (walkClass f s).cons 'L'
  | s => .done s
termination_by s => (s.length, 0)

/-- Walks a class type from inside its name to the semicolon that ends the text. -/
def walkClass (f : Text → Option Text) : Text → Walk Text
  | [] => .broken
  | '<' :: s => (walkArguments f s).cons '<'
  | ';' :: s => if s.isEmpty then .done [';'] else .broken
  | c :: s => (walkClass f s).cons c
termination_by s => (s.length, 0)

/-- Walks type arguments to the closing bracket, and the class type after it. -/
def walkArguments (f : Text → Option Text) : Text → Walk Text
  | [] => .broken
  | '>' :: s => (walkClass f s).cons '>'
  | '*' :: s => (walkArguments f s).cons '*'
  | '+' :: s => (walkBound f s).cons '+'
  | '-' :: s => (walkBound f s).cons '-'
  | s => walkBound f s
termination_by s => (s.length, 2)

def walkBound (f : Text → Option Text) (s : Text) : Walk Text :=
  match _h : scan s with
  | none => .broken
  | some (token, rest) =>
    (walkToken f token).bind fun walked => (walkArguments f rest).map (walked ++ ·)
termination_by (s.length, 1)
decreasing_by
  · have := length_scan _h
    rcases Nat.lt_or_ge token.length s.length with hlt | hge
    · exact Prod.Lex.left _ _ hlt
    · rw [show token.length = s.length by omega]
      exact Prod.Lex.right _ (by omega)
  · exact Prod.Lex.left _ _ (length_rest_lt _h)

end

/-- The names of the type variables met, with repetitions. -/
def mentioned (d : Descriptor) : List Text := (walkToken (fun _ => none) d.text).seen

/-- Puts `f name` for every reference to a variable for which there is one. -/
def mapVariables (f : Text → Option Text) (d : Descriptor) : Except ReadError Descriptor :=
  match (walkToken f d.text).result with
  | some s => .ok ⟨s⟩
  | none => .error (.signature d.text)

def substitute (d : Descriptor) (name : Text) (replacement : Descriptor) :
    Except ReadError Descriptor :=
  d.mapVariables fun other => if other = name then some replacement.text else none

def mentions (name : Text) (d : Descriptor) : Except ReadError Bool :=
  (d.mapVariables fun _ => none).map fun _ => d.mentioned.elem name

end Descriptor
end ErasedBridges
