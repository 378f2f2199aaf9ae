import ErasedBridges.Run.JobError

/-!
# Plans

A plan is a computation that asks a toolchain for the texts of classes, hands texts back and
reads sources. Executing it against a toolchain records what was asked for, in order. The first
failure ends the plan, and what was written until then stays written.
-/

namespace ErasedBridges

/-- Each step continues with the answer to it. -/
inductive Plan (α : Type) where
  | done (a : α)
  | failed (error : JobError)
  | disassemble (className : Text) (next : Text → Plan α)
  | assemble (className text : Text) (next : List Path → Plan α)
  | readSource (path : Path) (next : Text → Plan α)

namespace Plan

def bind {α β : Type} (p : Plan α) (f : α → Plan β) : Plan β :=
  match p with
  | done a => f a
  | failed e => failed e
  | disassemble c next => disassemble c fun s => (next s).bind f
  | assemble c s next => assemble c s fun paths => (next paths).bind f
  | readSource path next => readSource path fun s => (next s).bind f

instance : Monad Plan where
  pure := done
  bind := bind

def ofPatch {α : Type} (className : Text) : Except PatchError α → Plan α
  | .ok a => done a
  | .error e => failed (.patch className e)

end Plan

/-- Converts between compiled classes and their texts, over a state. A call may fail and change
the state all the same. -/
structure Toolchain (σ : Type) where
  disassemble : Text → σ → Except JobError Text × σ
  /-- Answers the files written. -/
  assemble : Text → Text → σ → Except JobError (List Path) × σ
  readSource : Path → σ → Except OsError Text

/-- A call to a toolchain with its answer, and the text that was handed to it. -/
inductive ToolCall where
  | disassembled (className : Text) (result : Except JobError Text)
  | assembled (className text : Text) (result : Except JobError (List Path))

namespace ToolCall

/-- The class whose text was handed to the toolchain. -/
def assembled? : ToolCall → Option Text
  | assembled c _ _ => some c
  | disassembled .. => none

end ToolCall

structure Outcome (σ α : Type) where
  result : Except JobError α
  state : σ
  calls : List ToolCall

namespace Plan

def execute {σ α : Type} (t : Toolchain σ) : Plan α → σ → Outcome σ α
  | done a, st => ⟨.ok a, st, []⟩
  | failed e, st => ⟨.error e, st, []⟩
  | disassemble c next, st =>
    let call (r : Except JobError Text) := ToolCall.disassembled c r
    match t.disassemble c st with
    | (.ok s, st) =>
      let rest := (next s).execute t st
      { rest with calls := call (.ok s) :: rest.calls }
    | (.error e, st) => ⟨.error e, st, [call (.error e)]⟩
  | assemble c s next, st =>
    let call (r : Except JobError (List Path)) := ToolCall.assembled c s r
    match t.assemble c s st with
    | (.ok paths, st) =>
      let rest := (next paths).execute t st
      { rest with calls := call (.ok paths) :: rest.calls }
    | (.error e, st) => ⟨.error e, st, [call (.error e)]⟩
  | readSource path next, st =>
    match t.readSource path st with
    | .ok s => (next s).execute t st
    | .error e => ⟨.error (.os path e), st, []⟩

end Plan
end ErasedBridges
