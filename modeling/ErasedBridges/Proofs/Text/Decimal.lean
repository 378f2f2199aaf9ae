import ErasedBridges.Text.Decimal
import ErasedBridges.Proofs.Text.Ink

/-!
# Reading decimal numbers back

A number that is within the limit is read back from its digits, and a number that was read prints
as it was written unless it was written with a plus sign or leading zeros.
-/

namespace ErasedBridges.Text

/-- Neither a plus sign nor a leading zero. -/
def IsCanonical (s : Text) : Prop := s.head? ≠ some '+' ∧ (s.head? = some '0' → s = ['0'])

instance : DecidablePred IsCanonical := fun s =>
  inferInstanceAs (Decidable (s.head? ≠ some '+' ∧ (s.head? = some '0' → s = ['0'])))

theorem isDigit_of_mem_decimal {n : Nat} {c : Char} (h : c ∈ decimal n) : c.isDigit = true :=
  Nat.isDigit_of_mem_toDigits (by decide) (by decide) h

theorem decimal_ne_nil (n : Nat) : decimal n ≠ [] := Nat.toDigits_ne_nil

theorem toNat_of_isDigit {c : Char} (h : c.isDigit = true) : 48 ≤ c.toNat ∧ c.toNat ≤ 57 := by
  simpa [Char.isDigit, UInt32.le_iff_toNat_le] using h

theorem isBlank_of_isDigit {c : Char} (h : c.isDigit = true) : isBlank c = false := by
  have hc := toNat_of_isDigit h
  simp only [isBlank]
  grind

theorem isWord_decimal (n : Nat) : IsWord (decimal n) :=
  ⟨decimal_ne_nil n, fun _ hc => isBlank_of_isDigit (isDigit_of_mem_decimal hc)⟩

theorem digitsValue_eq (s : Text) : digitsValue s = Nat.ofDigitChars 10 s 0 := rfl

theorem readDigits?_eq_some {limit n : Nat} {s : Text} :
    readDigits? limit s = some n ↔
      s ≠ [] ∧ (∀ c ∈ s, c.isDigit = true) ∧ n ≤ limit ∧ digitsValue s = n := by
  rw [readDigits?]
  by_cases h : (!s.isEmpty && s.all Char.isDigit && decide (digitsValue s ≤ limit)) = true
  · rw [if_pos h, Option.some.injEq]
    simp only [Bool.and_eq_true, Bool.not_eq_true', List.isEmpty_eq_false_iff, List.all_eq_true,
      decide_eq_true_eq] at h
    constructor
    · rintro rfl
      exact ⟨h.1.1, h.1.2, h.2, rfl⟩
    · exact fun hn => hn.2.2.2
  · rw [if_neg h]
    constructor
    · rintro ⟨⟩
    · rintro ⟨hne, hd, hle, rfl⟩
      refine absurd ?_ h
      simp only [Bool.and_eq_true, Bool.not_eq_true', List.isEmpty_eq_false_iff,
        List.all_eq_true, decide_eq_true_eq]
      exact ⟨⟨hne, hd⟩, hle⟩

theorem digitsValue_decimal (n : Nat) : digitsValue (decimal n) = n := by
  rw [digitsValue_eq, decimal, Nat.ofDigitChars_ten_toDigits]

theorem decimal_injective : Function.Injective decimal :=
  Function.LeftInverse.injective digitsValue_decimal

theorem readDecimal?_of_head {limit : Nat} {s : Text} (h : s.head? ≠ some '+') :
    readDecimal? limit s = readDigits? limit s := by
  cases s with
  | nil => rfl
  | cons c s =>
    have hc : c ≠ '+' := by simpa using h
    rw [readDecimal?]
    rintro t he
    exact hc (List.cons.inj he).1

theorem readDecimal?_decimal {limit n : Nat} (h : n ≤ limit) :
    readDecimal? limit (decimal n) = some n := by
  have hhead : (decimal n).head? ≠ some '+' := fun hc =>
    absurd (isDigit_of_mem_decimal (List.mem_of_head? hc)) (by decide)
  rw [readDecimal?_of_head hhead, readDigits?_eq_some]
  exact ⟨decimal_ne_nil n, fun c hc => isDigit_of_mem_decimal hc, h, digitsValue_decimal n⟩

theorem le_of_readDecimal? {limit n : Nat} {s : Text} (h : readDecimal? limit s = some n) :
    n ≤ limit := by
  unfold readDecimal? at h
  split at h
  · exact (readDigits?_eq_some.1 h).2.2.1
  · exact (readDigits?_eq_some.1 h).2.2.1

/-! ### Canonical digits -/

theorem digitChar_sub {c : Char} (h : c.isDigit = true) : Nat.digitChar (c.toNat - 48) = c := by
  have hc := toNat_of_isDigit h
  rw [← Char.toNat_inj, Nat.toNat_digitChar_of_lt_ten (by omega)]
  omega

theorem digitsValue_pos {c : Char} {s : Text} (hc : c.isDigit = true) (h0 : c ≠ '0') :
    0 < digitsValue (c :: s) := by
  have hn := toNat_of_isDigit hc
  have hne : c.toNat ≠ 48 := fun he => h0 (Char.toNat_inj.1 he)
  have hpow : 0 < 10 ^ s.length := by positivity
  rw [digitsValue_eq, Nat.ofDigitChars_cons, Nat.ofDigitChars_eq_ofDigitChars_zero]
  have hmul : 0 < 10 ^ s.length * (10 * 0 + (c.toNat - '0'.toNat)) :=
    Nat.mul_pos hpow (by change 0 < 10 * 0 + (c.toNat - 48); omega)
  omega

theorem decimal_digitsValue {s : Text} (hne : s ≠ []) (hd : ∀ c ∈ s, c.isDigit = true)
    (hs : s.head? = some '0' → s = ['0']) : decimal (digitsValue s) = s := by
  induction s using List.reverseRecOn with
  | nil => exact absurd rfl hne
  | append_singleton s c ih =>
    have hc : c.isDigit = true := hd c (by simp)
    have hn := toNat_of_isDigit hc
    have hval : digitsValue (s ++ [c]) = 10 * digitsValue s + (c.toNat - 48) := by
      rw [digitsValue_eq, Nat.ofDigitChars_append, Nat.ofDigitChars_cons, Nat.ofDigitChars_nil]
      rfl
    rw [hval]
    cases s with
    | nil =>
      rw [show 10 * digitsValue [] + (c.toNat - 48) = c.toNat - 48 from Nat.zero_add _, decimal,
        Nat.toDigits_of_lt_base (by omega), digitChar_sub hc]
      rfl
    | cons d s =>
      have hd0 : d ≠ '0' := fun he => by have := hs (by simp [he]); simp at this
      have hpos := digitsValue_pos (s := s) (hd d (by simp)) hd0
      have hlast : Nat.toDigits 10 (c.toNat - 48) = [c] := by
        rw [Nat.toDigits_of_lt_base (by omega), digitChar_sub hc]
      rw [decimal, ← Nat.toDigits_append_toDigits (by decide) hpos (by omega), hlast,
        ← decimal, ih (by simp) (fun x hx => hd x (List.mem_append_left _ hx))
          (fun he => absurd (Option.some.inj he) hd0)]

theorem decimal_of_readDecimal? {limit n : Nat} {s : Text} (h : readDecimal? limit s = some n)
    (hs : IsCanonical s) : decimal n = s := by
  rw [readDecimal?_of_head hs.1] at h
  obtain ⟨hne, hd, -, rfl⟩ := readDigits?_eq_some.1 h
  exact decimal_digitsValue hne hd hs.2

end ErasedBridges.Text
