import ErasedBridges.Text.Decimal

/-!
# Failures of the operating system
-/

namespace ErasedBridges

inductive OsError where
  | notFound
  | permissionDenied
  | alreadyExists
  | notADirectory
  | isADirectory
  | nameTooLong
  | notEmpty
  | notUtf8
  /-- A path with the character zero. -/
  | nulInPath
  /-- A command with the character zero. -/
  | nulInCommand
  /-- A failure with words and a number of its own. -/
  | other (words : Text) (number : Nat)
deriving DecidableEq, Repr

namespace OsError

def parts : OsError → Text × Option Nat
  | notFound => ("No such file or directory".toList, some 2)
  | permissionDenied => ("Permission denied".toList, some 13)
  | alreadyExists => ("File exists".toList, some 17)
  | notADirectory => ("Not a directory".toList, some 20)
  | isADirectory => ("Is a directory".toList, some 21)
  | nameTooLong => ("File name too long".toList, some 36)
  | notEmpty => ("Directory not empty".toList, some 39)
  | notUtf8 => ("stream did not contain valid UTF-8".toList, none)
  | nulInPath => ("file name contained an unexpected NUL byte".toList, none)
  | nulInCommand => ("nul byte found in provided data".toList, none)
  | other words number => (words, some number)

def words (e : OsError) : Text := e.parts.1

def message (e : OsError) : Text :=
  e.words ++ match e.parts.2 with
    | some n => " (os error ".toList ++ Text.decimal n ++ [')']
    | none => []

end OsError
end ErasedBridges
