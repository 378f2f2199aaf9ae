/-!
# Text

All text is handled as its list of characters, so that every reader and every printer recurses
on it. `split` cuts at single characters and `cut?` at the first occurrence of a separator.
-/

namespace ErasedBridges

abbrev Text := List Char

namespace Text

/-- The pieces between the characters that satisfy `p`; there is one more piece than there are
such characters. -/
def split (p : Char → Bool) : Text → List Text
  | [] => [[]]
  | c :: s =>
    if p c then [] :: split p s
    else match split p s with
      | [] => [[c]]
      | piece :: pieces => (c :: piece) :: pieces

def cut? (sep : Text) : Text → Option (Text × Text)
  | [] => if sep.isEmpty then some ([], []) else none
  | c :: s =>
    match sep.isPrefixOf? (c :: s) with
    | some rest => some ([], rest)
    | none => (cut? sep s).map fun (before, rest) => (c :: before, rest)

def startsWith (s start : Text) : Bool := start.isPrefixOf s

def endsWith (s suffix : Text) : Bool := suffix.isSuffixOf s

def contains (s part : Text) : Bool := (cut? part s).isSome

/-- `s` without its last `suffix`. -/
def dropEnd? (suffix s : Text) : Option Text := suffix.isSuffixOf? s

/-- `s` on at least `width` characters, filled with blanks on the right. -/
def padRight (width : Nat) (s : Text) : Text := s ++ List.replicate (width - s.length) ' '

def join (sep : Text) (pieces : List Text) : Text := sep.intercalate pieces

theorem split_ne_nil (p : Char → Bool) (s : Text) : split p s ≠ [] := by
  cases s with
  | nil => simp [split]
  | cons c s => unfold split; split <;> (try split) <;> simp

theorem append_of_isPrefixOf? {start s rest : Text} (h : start.isPrefixOf? s = some rest) :
    start ++ rest = s := by
  induction start generalizing s with
  | nil =>
    cases h
    rfl
  | cons c start ih =>
    cases s with
    | nil => cases h
    | cons d s =>
      change (if c == d then start.isPrefixOf? s else none) = some rest at h
      split at h
      · next hc => rw [beq_iff_eq.1 hc, List.cons_append, ih h]
      · cases h

theorem cut?_append {sep s before rest : Text} (h : cut? sep s = some (before, rest)) :
    before ++ sep ++ rest = s := by
  induction s generalizing before rest with
  | nil => grind [cut?, List.isEmpty_iff]
  | cons c s ih =>
    unfold cut? at h
    split at h
    · next hp =>
      obtain ⟨rfl, rfl⟩ := Prod.mk.inj (Option.some.inj h)
      simpa using append_of_isPrefixOf? hp
    · obtain ⟨⟨b, r⟩, hs, he⟩ := Option.map_eq_some_iff.1 h
      obtain ⟨rfl, rfl⟩ := Prod.mk.inj he
      simpa using ih hs

end Text
end ErasedBridges
