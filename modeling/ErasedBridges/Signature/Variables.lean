import ErasedBridges.Signature.Basic
import ErasedBridges.Descriptor.Variables

/-!
# Type variables of a signature

A rewriting goes through the bounds of the type parameters, the parameters, the return type and
the thrown types, in that order. Renaming reaches the declaration of the variable too.
-/

namespace ErasedBridges

namespace TypeParameter

def mapVariables (f : Text → Option Text) (p : TypeParameter) : Except ReadError TypeParameter := do
  let classBound ← match p.classBound with
    | none => pure none
    | some b => (b.mapVariables f).map some
  let interfaceBounds ← p.interfaceBounds.mapM (·.mapVariables f)
  return { p with classBound, interfaceBounds }

end TypeParameter

namespace MethodSignature

def mapVariables (f : Text → Option Text) (s : MethodSignature) :
    Except ReadError MethodSignature := do
  let typeParams ← s.typeParams.mapM (·.mapVariables f)
  let params ← s.params.mapM (·.mapVariables f)
  let returnType ← s.returnType.mapVariables f
  let throws ← s.throws.mapM (·.mapVariables f)
  return ⟨typeParams, params, returnType, throws⟩

def substitute (s : MethodSignature) (name : Text) (replacement : Descriptor) :
    Except ReadError MethodSignature :=
  s.mapVariables fun other => if other = name then some replacement.text else none

/-- Calls the variable `source` by the name `target`, where it is declared and where it is used. -/
def rename (s : MethodSignature) (source target : Text) : Except ReadError MethodSignature := do
  let renamed ← s.mapVariables fun other =>
    if other = source then some ('T' :: (target ++ [';'])) else none
  let declared := renamed.typeParams.map fun p =>
    if p.name = source then { p with name := target } else p
  return { renamed with typeParams := declared }

end MethodSignature
end ErasedBridges
