import ErasedBridges.Host.OsError
import ErasedBridges.Text.Utf8

/-!
# Paths

A path is text whose components are separated by slashes. It is absolute if it starts with one.
No path is empty, and none is of more bytes than the system takes.
-/

namespace ErasedBridges

abbrev Path := Text

namespace Path

def isAbsolute (p : Path) : Bool := p.head? == some '/'

/-- A path as seen from a directory. An absolute path stays as it is. -/
def join (dir p : Path) : Path :=
  if isAbsolute p then p
  else if dir.isEmpty || dir.getLast? == some '/' then dir ++ p
  else dir ++ '/' :: p

def resolve (dir p : Path) : Path := if isAbsolute p then p else join dir p

def components (p : Path) : List Text := Text.split (· == '/') p

/-- Drops slashes and components `.` from the end, but for a component that is the whole path. -/
def trimEnd (p : Path) : Path :=
  go p.reverse
where
  go : Text → Path
    | '/' :: [] => ['/']
    | '/' :: s => go s
    | '.' :: '/' :: s => go ('/' :: s)
    | s => s.reverse

def parent? (p : Path) : Option Path :=
  let kept := trimEnd p
  if kept.isEmpty || kept == ['/'] then none
  else
    let dir := (kept.reverse.dropWhile (· != '/')).reverse
    some (if dir.isEmpty then [] else trimEnd dir)

def lastComponent (p : Path) : Text := (components p).getLastD []

def maxName : Nat := 255

def maxPath : Nat := 4095

/-- What is wrong with a path, whatever files there are. -/
def fault? (p : Path) : Option OsError :=
  if p.elem '\x00' then some .nulInPath
  else if p.isEmpty then some .notFound
  else if maxPath < (Text.encode p).length then some .nameTooLong
  else none

end Path
end ErasedBridges
