import ErasedBridges.Command.Template
import ErasedBridges.Library.Layout

/-!
# Configuration

Where the compiled library lies, how its classes are converted to text and back, and how much is
logged. Everything has a default.
-/

namespace ErasedBridges

structure LibraryPaths where
  /-- Compiled classes. Patched classes are written back here. -/
  classes : Path
  sources : Path
  /-- Where the texts of classes are kept in between; a fresh directory if there is none. -/
  scratch : Option Path
deriving DecidableEq, Repr

namespace LibraryPaths

def default : LibraryPaths := ⟨"target/classes".toList, "src/main/java".toList, none⟩

/-- Relative paths are taken from `root`. -/
def resolve (root : Path) (p : LibraryPaths) : LibraryPaths :=
  ⟨Path.resolve root p.classes, Path.resolve root p.sources, p.scratch.map (Path.resolve root)⟩

end LibraryPaths

/-- The commands that convert classes. Their arguments may name the directories and files of a
class in placeholders. -/
structure ToolCommands where
  disassemble : CommandTemplate
  assemble : CommandTemplate
  /-- For each command; zero is no limit. -/
  timeoutMs : Nat
deriving DecidableEq, Repr

namespace ToolCommands

def default : ToolCommands where
  disassemble :=
    ["python2", "krakatau/disassemble.py", "-out", "\x7bscratch\x7d", "\x7bclass_file\x7d"].map
      String.toList
  assemble :=
    ["python2", "krakatau/assemble.py", "-out", "\x7bclasses\x7d", "\x7basm_file\x7d"].map
      String.toList
  timeoutMs := 60000

def timeout? (t : ToolCommands) : Option Nat := if t.timeoutMs = 0 then none else some t.timeoutMs

end ToolCommands

structure Logging where
  /-- A level or a list of directives. -/
  level : Text
  json : Bool
  stderr : Bool
deriving DecidableEq, Repr

namespace Logging

def default : Logging := ⟨"info".toList, false, true⟩

end Logging

structure Config where
  paths : LibraryPaths
  library : Layout
  tools : ToolCommands
  logging : Logging
deriving DecidableEq, Repr

namespace Config

def default : Config := ⟨.default, .default, .default, .default⟩

def resolvePaths (root : Path) (c : Config) : Config := { c with paths := c.paths.resolve root }

end Config
end ErasedBridges
