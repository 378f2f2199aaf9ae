import ErasedBridges.Text.Blank
import ErasedBridges.Text.Decimal
import ErasedBridges.Text.Lines
import ErasedBridges.Text.Word

/-!
# The line that declares a class

A declaration starts its line, after blanks, with modifiers, the word `class` and the name. A word
boundary has to follow the name.
-/

namespace ErasedBridges.Source

def modifiers : List Text :=
  ["public", "protected", "private", "abstract", "static", "final", "sealed", "non-sealed",
    "strictfp"].map String.toList

/-- What follows a word and the blanks after it. There has to be at least one blank. -/
def dropWord? (word s : Text) : Option Text :=
  match word.isPrefixOf? s with
  | some (c :: rest) => if Text.isBlank c then some (Text.trimStart rest) else none
  | _ => none

theorem length_dropWord?_lt {word s rest : Text} (h : dropWord? word s = some rest) :
    rest.length < s.length := by
  unfold dropWord? at h
  split at h
  · next c r hp =>
    split at h
    · obtain rfl := Option.some.inj h
      rw [← Text.append_of_isPrefixOf? hp]
      have : (Text.trimStart r).length ≤ r.length := (List.dropWhile_suffix _).length_le
      simp only [List.length_append, List.length_cons]
      omega
    · simp at h
  · simp at h

def dropModifiers (s : Text) : Text :=
  match _h : modifiers.findSome? (dropWord? · s) with
  | some rest => dropModifiers rest
  | none => s
termination_by s.length
decreasing_by
  obtain ⟨_, _, hw⟩ := List.exists_of_findSome?_eq_some _h
  exact length_dropWord?_lt hw

/-- Whether the name stands after some of the blanks at the start, and ends in a boundary. -/
def namedAfterBlanks (name s : Text) : Bool :=
  let blanks := (s.takeWhile Text.isBlank).length
  (List.range blanks).any fun i =>
    match name.isPrefixOf? (s.drop (i + 1)) with
    | some rest => Text.isBoundary (s.take (i + 1) ++ name).getLast? rest.head?
    | none => false

def declares (name line : Text) : Bool :=
  match "class".toList.isPrefixOf? (dropModifiers (Text.trimStart line)) with
  | some rest => namedAfterBlanks name rest
  | none => false

/-- The number, from one, of the first line that declares the class. A larger number than line
tables hold is none. -/
def declarationLine? (name source : Text) : Option Nat :=
  (((Text.lines source).findIdx? (declares name)).map (· + 1)).filter (· ≤ Text.maxLine)

end ErasedBridges.Source
