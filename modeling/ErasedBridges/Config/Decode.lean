import ErasedBridges.Config.Basic
import ErasedBridges.Config.Error
import ErasedBridges.Config.Toml.Document
import ErasedBridges.Decimal.Shortest
import ErasedBridges.Text.Quoted

/-!
# Reading a configuration

The values of a document are read in the order of the document, and the first that does not fit
is the failure. Keys that mean nothing are skipped, and what is not given keeps its default. An
array may stand for a table: its items are the values of the fields in their order.
-/

namespace ErasedBridges

namespace Toml

def described : Toml → Text
  | string s => "string ".toList ++ Text.quoted s
  | integer n => "integer `".toList ++ Text.signedDecimal n ++ "`".toList
  | float x => "floating point `".toList ++ Decimal.shownWithPoint x ++ "`".toList
  | boolean b => "boolean `".toList ++ (if b then "true" else "false").toList ++ "`".toList
  | dateTime => "map".toList
  | array _ => "sequence".toList
  | table _ => "map".toList

abbrev Decoded := Except ValueFault

def mistyped {α : Type} (expected : String) (v : Toml) : Decoded α :=
  .error (.wrongType v.described expected.toList)

def text (expected : String) : Toml → Decoded Text
  | string s => .ok s
  | v => v.mistyped expected

def plainText : Toml → Decoded Text := text "a string"

def path : Toml → Decoded Path := text "path string"

def truth : Toml → Decoded Bool
  | boolean b => .ok b
  | v => v.mistyped "a boolean"

def natural : Toml → Decoded Nat
  | integer (.ofNat n) => .ok n
  | v@(integer _) => .error (.wrongValue v.described "u64".toList)
  | v => v.mistyped "u64"

def texts : Toml → Decoded (List Text)
  | array items => items.mapM plainText
  | v => v.mistyped "a sequence"

/-- A record that is read from a table: its name in messages, and how each of its fields is set. -/
structure Record (α : Type) where
  name : String
  fields : List (String × (Toml → α → Decoded α))

namespace Record

def field {α β : Type} (name : String) (read : Toml → Decoded β) (set : β → α → α) :
    String × (Toml → α → Decoded α) :=
  (name, fun v a => do return set (← read v) a)

def setField {α : Type} (r : Record α) (a : α) (key : Text) (v : Toml) : Decoded α :=
  match r.fields.find? fun f => f.1.toList == key with
  | some f => f.2 v a
  | none => .ok a

def read {α : Type} (r : Record α) (start : α) : Toml → Decoded α
  | table given => given.foldlM (fun a (key, v) => r.setField a key v) start
  | array items => (r.fields.zip items).foldlM (fun a (f, v) => f.2 v a) start
  | dateTime => .ok start
  | v => v.mistyped ("struct " ++ r.name)

end Record
end Toml

open Toml (Decoded Record)
open Toml.Record (field)

namespace MethodRef

/-- The two names, of which either may not be there yet. -/
def record : Record (Option Text × Option Text) where
  name := "MethodRef"
  fields := [field "owner" Toml.plainText fun s r => (some s, r.2),
    field "name" Toml.plainText fun s r => (r.1, some s)]

/-- Both names have to be given. -/
def ofToml (v : Toml) : Decoded MethodRef := do
  match v, ← record.read (none, none) v with
  | _, (some owner, some name) => return ⟨owner, name⟩
  | .array items, _ =>
    .error (.tooFewItems items.length "struct MethodRef with 2 elements".toList)
  | _, (none, _) => .error (.missingField "owner".toList)
  | _, (_, none) => .error (.missingField "name".toList)

end MethodRef

namespace Layout

def record : Record Layout where
  name := "LibraryLayout"
  fields := [
    field "package" Toml.plainText fun s l => { l with package := s },
    field "base_interface" Toml.plainText fun s l => { l with baseInterface := s },
    field "empty_class" Toml.plainText fun s l => { l with emptyClass := s },
    field "some_prefix" Toml.plainText fun s l => { l with somePrefix := s },
    field "interface_suffix" Toml.plainText fun s l => { l with interfaceSuffix := s },
    field "empty_factory" MethodRef.ofToml fun r l => { l with emptyFactory := r },
    field "missing_value" MethodRef.ofToml fun r l => { l with missingValue := r },
    field "type_variable" Toml.plainText fun s l => { l with typeVariable := s },
    field "cast_method" Toml.plainText fun s l => { l with castMethod := s }]

end Layout

namespace LibraryPaths

def record : Record LibraryPaths where
  name := "PathsConfig"
  fields := [field "classes" Toml.path fun s p => { p with classes := s },
    field "sources" Toml.path fun s p => { p with sources := s },
    field "scratch" Toml.path fun s p => { p with scratch := some s }]

end LibraryPaths

namespace ToolCommands

def record : Record ToolCommands where
  name := "KrakatauConfig"
  fields := [field "disassemble" Toml.texts fun c t => { t with disassemble := c },
    field "assemble" Toml.texts fun c t => { t with assemble := c },
    field "timeout_ms" Toml.natural fun n t => { t with timeoutMs := n }]

end ToolCommands

namespace Logging

def record : Record Logging where
  name := "LoggingConfig"
  fields := [field "level" Toml.plainText fun s l => { l with level := s },
    field "json" Toml.truth fun b l => { l with json := b },
    field "stderr" Toml.truth fun b l => { l with stderr := b }]

end Logging

namespace Config

def record : Record Config where
  name := "OptbridgeConfig"
  fields := [
    field "paths" (LibraryPaths.record.read .default) fun p c => { c with paths := p },
    field "library" (Layout.record.read .default) fun l c => { c with library := l },
    field "krakatau" (ToolCommands.record.read .default) fun t c => { c with tools := t },
    field "logging" (Logging.record.read .default) fun l c => { c with logging := l }]

def parse (s : Text) : Except ConfigError Config :=
  match Toml.parse? s with
  | none => .error .syntaxError
  | some fields => (record.read default (.table fields)).mapError .value

end Config
end ErasedBridges
