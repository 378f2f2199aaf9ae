import ErasedBridges.Run.Plan

/-!
# A toolchain in memory

Classes are kept as their texts. What is handed in is stored, and what is asked for is the text
stored last.
-/

namespace ErasedBridges

structure Memory where
  classes : List (Text × Text)
  sources : List (Path × Text)
deriving DecidableEq, Repr

namespace Memory

def classFile (className : Text) : Path := className ++ ".class".toList

def store (className text : Text) (m : Memory) : Memory :=
  { m with classes := (className, text) :: m.classes.filter (·.1 != className) }

def readSource (path : Path) (m : Memory) : Except OsError Text :=
  match m.sources.lookup path with
  | some s => .ok s
  | none => .error ((Path.fault? path).getD .notFound)

def toolchain : Toolchain Memory where
  disassemble className m :=
    match m.classes.lookup className with
    | some s => (.ok s, m)
    | none => (.error (.missingClass className (classFile className)), m)
  assemble className text m := (.ok [classFile className], m.store className text)
  readSource := readSource

end Memory
end ErasedBridges
