import ErasedBridges.Text.Basic

/-!
# Bytes and text

Bytes decode to characters and to ill-formed pieces. A piece is the longest start of a
well-formed sequence that the bytes there allow, and at least one byte. Lossy decoding puts the
replacement character for each piece, strict decoding allows none.
-/

namespace ErasedBridges

abbrev Bytes := List UInt8

namespace Text

def encodeChar (c : Char) : Bytes :=
  let n := c.toNat
  let continuation (k : Nat) : UInt8 := UInt8.ofNat (0x80 + n / Nat.pow 64 k % 64)
  if n < 0x80 then [UInt8.ofNat n]
  else if n < 0x800 then [UInt8.ofNat (0xC0 + n / 64), continuation 0]
  else if n < 0x10000 then [UInt8.ofNat (0xE0 + n / 0x1000), continuation 1, continuation 0]
  else [UInt8.ofNat (0xF0 + n / 0x40000), continuation 2, continuation 1, continuation 0]

def encode (s : Text) : Bytes := s.flatMap encodeChar

/-- What a first byte of a sequence asks for: the payload of the byte, the range of the second
byte, and the number of bytes after that one. -/
structure Lead where
  payload : Nat
  first : Nat
  last : Nat
  more : Nat

def lead? (b : UInt8) : Option Lead :=
  let n := b.toNat
  if 0xC2 ≤ n ∧ n ≤ 0xDF then some ⟨n - 0xC0, 0x80, 0xBF, 0⟩
  else if n = 0xE0 then some ⟨0, 0xA0, 0xBF, 1⟩
  else if n = 0xED then some ⟨0xD, 0x80, 0x9F, 1⟩
  else if 0xE1 ≤ n ∧ n ≤ 0xEF then some ⟨n - 0xE0, 0x80, 0xBF, 1⟩
  else if n = 0xF0 then some ⟨0, 0x90, 0xBF, 2⟩
  else if 0xF1 ≤ n ∧ n ≤ 0xF3 then some ⟨n - 0xF0, 0x80, 0xBF, 2⟩
  else if n = 0xF4 then some ⟨4, 0x80, 0x8F, 2⟩
  else none

/-- Takes `more` continuation bytes. Without a character the piece was ill-formed. -/
def takeContinuation (payload : Nat) : Nat → Bytes → Option Char × Bytes
  | 0, bs => (some (Char.ofNat payload), bs)
  | _ + 1, [] => (none, [])
  | more + 1, b :: bs =>
    if 0x80 ≤ b.toNat ∧ b.toNat ≤ 0xBF then
      takeContinuation (payload * 64 + (b.toNat - 0x80)) more bs
    else (none, b :: bs)

def takeChar (b : UInt8) (bs : Bytes) : Option Char × Bytes :=
  if b.toNat < 0x80 then (some (Char.ofNat b.toNat), bs)
  else match lead? b, bs with
    | some l, c :: cs =>
      if l.first ≤ c.toNat ∧ c.toNat ≤ l.last then
        takeContinuation (l.payload * 64 + (c.toNat - 0x80)) l.more cs
      else (none, bs)
    | _, _ => (none, bs)

theorem length_takeContinuation (payload more : Nat) (bs : Bytes) :
    (takeContinuation payload more bs).2.length ≤ bs.length := by
  fun_induction takeContinuation payload more bs with
  | case1 => simp
  | case2 => simp
  | case3 _ _ _ _ _ ih => simp only [List.length_cons]; omega
  | case4 => simp

theorem length_takeChar (b : UInt8) (bs : Bytes) : (takeChar b bs).2.length ≤ bs.length := by
  unfold takeChar
  split
  · simp
  · split
    · split
      · next l c cs _ _ =>
        have := length_takeContinuation (l.payload * 64 + (c.toNat - 0x80)) l.more cs
        simp only [List.length_cons]
        omega
      · simp
    · simp

/-- Characters, with nothing for each ill-formed piece. -/
def pieces : Bytes → List (Option Char)
  | [] => []
  | b :: bs => (takeChar b bs).1 :: pieces (takeChar b bs).2
termination_by bs => bs.length
decreasing_by have := length_takeChar b bs; simp only [List.length_cons]; omega

def decodeLossy (bs : Bytes) : Text := (pieces bs).map (·.getD '\uFFFD')

def decode? (bs : Bytes) : Option Text := (pieces bs).mapM id

end Text
end ErasedBridges
