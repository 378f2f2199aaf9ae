import ErasedBridges.ClassFile.Basic
import ErasedBridges.FirstMatch
import ErasedBridges.PatchError

/-!
# Eliminating the cast of a bridge

The compiler's bridge casts its argument before it delegates, and so throws where the argument
is not even needed. It is given a copy of the implementation's code that keeps the bridge's line
and the erased type of its argument.
-/

namespace ErasedBridges

namespace Method

def ofRole (role : CastRole) (name : Text) (m : Method) : Bool :=
  m.name == name && (m.isBridge == (role == .bridge))

def nameAndType (m : Method) : Text := m.name ++ m.descriptor

def withCode (code : Code) (m : Method) : Option Method :=
  (modifyFirst? (fun a => a.code?.map fun _ => .code code) m.attributes).map fun attributes =>
    { m with attributes }

end Method

namespace Code

def firstLabel : Text := "L0".toList

/-- The line of the first entry labelled `L0` of the first line number table. -/
def firstLine? (c : Code) : Option Nat :=
  c.lineNumbers?.bind fun es => (es.find? (·.label = firstLabel)).map (·.line)

def hasCast (c : Code) : Bool :=
  c.instructions.any fun i => Text.startsWith i.text "checkcast ".toList

/-- Changes the first line number table, and in it the first entry labelled `L0`. A first table
without that label is a failure. -/
def withFirstLine? (line : Nat) (c : Code) : Option Code := do
  let (before, table, after) ← splitAtFirst? (·.lineNumbers?.isSome) c.items
  let entries ← table.lineNumbers?
  let entries ← modifyFirst?
    (fun e => if e.label = firstLabel then some { e with line } else none) entries
  return { c with items := before ++ .lineNumbers entries :: after }

/-- Changes the first local variable table, and in it the first entry for slot one. -/
def withArgumentType? (descriptor : Text) (c : Code) : Option Code := do
  let (before, table, after) ← splitAtFirst? (·.localVariables?.isSome) c.items
  let entries ← table.localVariables?
  let entries ← modifyFirst?
    (fun e => if e.index = 1 then some { e with descriptor } else none) entries
  return { c with items := before ++ .localVariables entries :: after }

end Code

namespace ClassFile

/-- The only method of its name in the role, with the items around it. -/
def findRole (role : CastRole) (name : Text) (c : ClassFile) :
    Except PatchError (List ClassItem × Method × List ClassItem) :=
  let isFound (i : ClassItem) : Bool := i.method?.any (·.ofRole role name)
  match splitAtFirst? isFound c.items with
  | some (before, .method m, after) =>
    if after.any isFound then .error (.location c.displayName (.manyMethods role name))
    else .ok (before, m, after)
  | _ => .error (.location c.displayName (.noMethod role name))

/-- The implementation's code with the line and the argument type of its bridge. -/
def delegateCode (c : ClassFile) (name : Text) (bridge implementation : Method) :
    Except PatchError Code := do
  let missing {α : Type} (fault : LocationFault) : Option α → Except PatchError α
    | some a => .ok a
    | none => .error (.location c.displayName fault)
  let bridgeCode ← missing (.bridgeWithoutCode name) bridge.code?
  missing (.bridgeWithoutCast bridge.nameAndType) (if bridgeCode.hasCast then some () else none)
  let line ← missing (.bridgeWithoutLine name) bridgeCode.firstLine?
  let erased ← PatchError.ofRead bridge.parsedDescriptor
  let argument ← missing (.bridgeWithoutArguments name) erased.params.head?
  let code ← missing (.implementationWithoutCode implementation.nameAndType) implementation.code?
  let code ← missing (.implementationWithoutLine implementation.nameAndType)
    (code.withFirstLine? line)
  missing (.implementationWithoutLocal implementation.nameAndType)
    (code.withArgumentType? argument.text)

def eliminateCast (name : Text) (c : ClassFile) : Except PatchError ClassFile := do
  let (before, bridge, after) ← c.findRole .bridge name
  let (_, implementation, _) ← c.findRole .implementation name
  let code ← c.delegateCode name bridge implementation
  match bridge.withCode code with
  | some patched => return ⟨before ++ .method patched :: after⟩
  | none => .error (.location c.displayName (.bridgeWithoutCode name))

end ClassFile
end ErasedBridges
