import ErasedBridges.Command.Failure
import ErasedBridges.PatchError

/-!
# Why a patch run stops

An error has a message and may have causes, each with a message of its own. In full it reads as
all of them in turn.
-/

namespace ErasedBridges

inductive ToolStep where
  | disassemble
  | assemble
deriving DecidableEq, Repr

namespace ToolStep

def name : ToolStep → Text
  | disassemble => "disassemble".toList
  | assemble => "assemble".toList

end ToolStep

inductive JobError where
  | os (path : Path) (error : OsError)
  | command (step : ToolStep) (className : Text) (error : RunError)
  | missingClass (className : Text) (path : Path)
  | missingOutput (className : Text) (path : Path)
  | patch (className : Text) (error : PatchError)
  | noDeclaration (name : Text) (path : Path)
deriving DecidableEq, Repr

namespace JobError

def message : JobError → Text
  | os path e => "failed to access ".toList ++ path ++ ": ".toList ++ e.message
  | command step className _ => "failed to ".toList ++ step.name ++ ' ' :: className
  | missingClass className path =>
    "class file for ".toList ++ className ++ " not found at ".toList ++ path
  | missingOutput className path =>
    "disassembler produced no output for ".toList ++ className ++ " under ".toList ++ path
  | patch className _ => "failed to patch ".toList ++ className
  | noDeclaration name path =>
    "no declaration of class ".toList ++ name ++ " in ".toList ++ path

def causes : JobError → List Text
  | os _ e => [e.message]
  | command _ _ e => e.message :: e.cause?.toList
  | patch _ e => [e.message]
  | _ => []

def fullMessage (e : JobError) : Text := Text.join ": ".toList (e.message :: e.causes)

end JobError
end ErasedBridges
