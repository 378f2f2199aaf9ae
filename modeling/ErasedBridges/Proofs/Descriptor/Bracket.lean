import ErasedBridges.Proofs.Descriptor.Token

/-!
# Scans and brackets

A scan for the end of a name counts brackets. What it passes over in some depth it passes over in
any greater one, and a token is passed as a whole wherever the scan is inside of brackets.
-/

namespace ErasedBridges.Descriptor

theorem scanName_open (depth : Nat) (s : Text) :
    scanName depth ('<' :: s) =
      (scanName (depth + 1) s).map fun (name, rest) => ('<' :: name, rest) := by
  cases depth <;> rfl

theorem scanName_cons {depth : Nat} {c : Char} (hopen : c ≠ '<') (hclose : c ≠ '>')
    (hend : depth = 0 → c ≠ ';') (s : Text) :
    scanName depth (c :: s) = (scanName depth s).map fun (name, rest) => (c :: name, rest) := by
  rw [scanName.eq_def]
  split <;> simp_all

/-- Inside `depth` brackets a scan for the end of a name takes all of the text. -/
def Closes (depth : Nat) (s : Text) : Prop := scanName depth s = some (s, [])

/-- A name that ends at the semicolon behind it. -/
def IsName (name : Text) : Prop := Closes 0 (name ++ [';'])

theorem isName_of_bracketFree {name : Text} (h : Text.BracketFree name) : IsName name :=
  scanName_bracketFree h

/-- Inside at least `least` brackets a scan for the end of a name passes over the text `s`. -/
def Passes (least : Nat) (s : Text) : Prop :=
  ∀ depth, least ≤ depth → ∀ more,
    scanName depth (s ++ more) = (scanName depth more).map fun (name, rest) => (s ++ name, rest)

namespace Passes

variable {least : Nat} {s t : Text}

theorem nil : Passes least [] := by
  intro depth _ more
  cases h : scanName depth more <;> simp [h]

theorem append (hs : Passes least s) (ht : Passes least t) : Passes least (s ++ t) := by
  intro depth hdepth more
  rw [List.append_assoc, hs depth hdepth, ht depth hdepth, Option.map_map]
  congr 1
  funext split
  simp

theorem singleton {c : Char} (hopen : c ≠ '<') (hclose : c ≠ '>') (hend : least = 0 → c ≠ ';') :
    Passes least [c] := by
  intro depth hdepth more
  exact scanName_cons hopen hclose (fun h => hend (by omega)) more

theorem of_bracketFree (h : Text.BracketFree s) : Passes 0 s := by
  induction s with
  | nil => exact .nil
  | cons c s ih =>
    obtain ⟨⟨hopen, hclose, hend⟩, hs⟩ := List.forall_mem_cons.1 h
    exact (singleton hopen hclose fun _ => hend).append (ih hs)

/-- Brackets around what is passed inside of them are passed anywhere. -/
theorem brackets (h : Passes 1 s) : Passes 0 ('<' :: (s ++ ['>'])) := by
  intro depth _ more
  rw [List.cons_append, scanName_open, List.append_assoc, h (depth + 1) (by omega),
    List.singleton_append, scanName, Option.map_map, Option.map_map]
  congr 1
  funext split
  simp

end Passes

theorem scanName_add_of_scanName {depth : Nat} {s token rest : Text}
    (h : scanName depth s = some (token, rest)) (outer : Nat) (more : Text) :
    scanName (depth + (outer + 1)) (token ++ more) =
      (scanName (outer + 1) more).map fun (name, rest) => (token ++ name, rest) := by
  fun_induction scanName depth s generalizing token rest with
  | case1 | case3 => cases h
  | case2 =>
    cases h
    rw [Nat.zero_add, List.singleton_append,
      scanName_cons (by decide) (by decide) (fun hzero => by omega)]
    rfl
  | case4 depth s ih =>
    obtain ⟨⟨n, r⟩, hs, he⟩ := Option.map_eq_some_iff.1 h
    cases he
    rw [List.cons_append, Nat.succ_add, scanName, ih hs, Option.map_map]
    rfl
  | case5 depth s ih =>
    obtain ⟨⟨n, r⟩, hs, he⟩ := Option.map_eq_some_iff.1 h
    cases he
    rw [List.cons_append, scanName_open, Nat.add_right_comm, ih hs, Option.map_map]
    rfl
  | case6 depth c s _ hclose hclose' hopen ih =>
    obtain ⟨⟨n, r⟩, hs, he⟩ := Option.map_eq_some_iff.1 h
    cases he
    have hplain : c ≠ '>' := by
      cases depth with
      | zero => exact hclose rfl
      | succ depth => exact hclose' depth rfl
    rw [List.cons_append, scanName_cons hopen hplain (fun hzero => by omega), ih hs,
      Option.map_map]
    rfl

theorem passes_of_scanName {s token rest : Text} (h : scanName 0 s = some (token, rest)) :
    Passes 1 token := by
  intro depth hdepth more
  obtain ⟨outer, rfl⟩ := Nat.exists_eq_add_of_le' hdepth
  have hpass := scanName_add_of_scanName h outer more
  rw [Nat.zero_add] at hpass
  exact hpass

/-- Inside of brackets a token is passed as a whole. -/
theorem passes_of_scan {s token rest : Text} (h : scan s = some (token, rest)) :
    Passes 1 token := by
  have hsingle {c : Char} (hopen : c ≠ '<') (hclose : c ≠ '>') : Passes 1 [c] :=
    .singleton hopen hclose fun hzero => by omega
  fun_induction scan s generalizing token rest with
  | case1 | case5 => cases h
  | case2 s ih =>
    obtain ⟨⟨t, r⟩, hs, he⟩ := Option.map_eq_some_iff.1 h
    cases he
    exact (hsingle (by decide) (by decide)).append (ih hs)
  | case3 c s hne hbase =>
    cases h
    refine hsingle ?_ ?_
    · rintro rfl
      cases hbase
    · rintro rfl
      cases hbase
  | case4 c s hne hbase hclass =>
    obtain ⟨⟨n, r⟩, hs, he⟩ := Option.map_eq_some_iff.1 h
    cases he
    rcases hclass with rfl | rfl
    · exact (hsingle (by decide) (by decide)).append (passes_of_scanName hs)
    · exact (hsingle (by decide) (by decide)).append (passes_of_scanName hs)

/-! ### Texts that are closed -/

theorem map_append_eq_some {s t : Text} {x : Option (Text × Text)} :
    x.map (fun (name, rest) => (t ++ name, rest)) = some (t ++ s, []) ↔ x = some (s, []) := by
  constructor
  · intro h
    obtain ⟨⟨name, rest⟩, rfl, he⟩ := Option.map_eq_some_iff.1 h
    simpa using he
  · rintro rfl
    rfl

theorem closes_append {least depth : Nat} {s t : Text} (ht : Passes least t)
    (hdepth : least ≤ depth) : Closes depth (t ++ s) ↔ Closes depth s := by
  rw [Closes, ht depth hdepth, map_append_eq_some, Closes]

theorem closes_open {depth : Nat} {s : Text} :
    Closes depth ('<' :: s) ↔ Closes (depth + 1) s := by
  rw [Closes, scanName_open]
  exact map_append_eq_some (t := ['<'])

theorem closes_close {depth : Nat} {s : Text} :
    Closes (depth + 1) ('>' :: s) ↔ Closes depth s := by
  rw [Closes, scanName]
  exact map_append_eq_some (t := ['>'])

theorem closes_plain {c : Char} {s : Text} (hopen : c ≠ '<') (hend : c ≠ ';')
    (h : Closes 0 (c :: s)) : Text.BracketFree [c] ∧ Closes 0 s := by
  have hclose : c ≠ '>' := by
    rintro rfl
    cases h
  have hplain : Text.BracketFree [c] := List.forall_mem_singleton.2 ⟨hopen, hclose, hend⟩
  exact ⟨hplain, (closes_append (Passes.of_bracketFree hplain) le_rfl).1 h⟩

theorem isToken_array {s : Text} : IsToken ⟨'[' :: s⟩ ↔ IsToken ⟨s⟩ := by
  rw [IsToken, scan]
  exact map_append_eq_some (t := ['['])

theorem isToken_named {c : Char} (hc : c = 'L' ∨ c = 'T') {s : Text} :
    IsToken ⟨c :: s⟩ ↔ Closes 0 s := by
  have hscan : scan (c :: s) = (scanName 0 s).map fun (name, rest) => (c :: name, rest) := by
    rcases hc with rfl | rfl
    · rw [scan]
      · rfl
      · decide
    · rw [scan]
      · rfl
      · decide
  rw [IsToken, hscan]
  exact map_append_eq_some (t := [c])

end ErasedBridges.Descriptor
