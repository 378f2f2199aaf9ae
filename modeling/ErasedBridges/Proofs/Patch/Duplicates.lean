import ErasedBridges.Proofs.Patch.EmptyVariant

/-!
# No method is declared twice

The first bridge that repeats a method of the class or a bridge before it is refused by name. If
none does, every bridge is declared once in the patched class, and so is every other method if it
was.
-/

namespace ErasedBridges

variable {declared : List (Text × Text)} {before ms : List Method} {m first : Method}

/-- After these methods, the method has the name and the descriptor of one of them, or of one that
is declared already. -/
def Redeclares (declared : List (Text × Text)) (before : List Method) (m : Method) : Prop :=
  m.key ∈ declared ∨ m.key ∈ before.map Method.key

theorem redeclares_nil : Redeclares declared [] m ↔ m.key ∈ declared :=
  or_iff_left List.not_mem_nil

theorem redeclares_cons :
    Redeclares declared (first :: before) m ↔ Redeclares (first.key :: declared) before m := by
  simp only [Redeclares, List.map_cons, List.mem_cons]
  exact or_left_comm.trans or_assoc.symm

/-- The method redeclares one, and no method before it does. -/
inductive FirstRedeclared (declared : List (Text × Text)) (m : Method) : List Method → Prop
  | intro {before after : List Method} (redeclares : Redeclares declared before m)
    (first : ∀ start m' rest, before = start ++ m' :: rest → ¬ Redeclares declared start m') :
    FirstRedeclared declared m (before ++ m :: after)

theorem not_firstRedeclared_nil : ¬ FirstRedeclared declared m [] := by
  generalize hms : ([] : List Method) = ms
  rintro @⟨before, after, -, -⟩
  exact List.append_ne_nil_of_right_ne_nil before (List.cons_ne_nil m after) hms.symm

theorem firstRedeclared_cons_of_mem (h : first.key ∈ declared) :
    FirstRedeclared declared m (first :: ms) ↔ m = first := by
  constructor
  · generalize hms : first :: ms = all
    rintro @⟨before, after, -, hfirst⟩
    cases before with
    | nil => exact (List.cons.inj hms).1.symm
    | cons m' before =>
      obtain ⟨rfl, -⟩ := List.cons.inj hms
      exact absurd (redeclares_nil.2 h) (hfirst [] first before rfl)
  · rintro rfl
    exact @FirstRedeclared.intro _ _ [] ms (redeclares_nil.2 h) fun start m' rest hsplit =>
      absurd hsplit.symm (List.append_ne_nil_of_right_ne_nil start (List.cons_ne_nil m' rest))

theorem firstRedeclared_cons_of_notMem (h : first.key ∉ declared) :
    FirstRedeclared declared m (first :: ms) ↔ FirstRedeclared (first.key :: declared) m ms := by
  constructor
  · generalize hms : first :: ms = all
    rintro @⟨before, after, hredeclares, hfirst⟩
    cases before with
    | nil =>
      obtain ⟨rfl, -⟩ := List.cons.inj hms
      exact absurd (redeclares_nil.1 hredeclares) h
    | cons m' before =>
      rw [List.cons_append, List.cons.injEq] at hms
      obtain ⟨rfl, rfl⟩ := hms
      refine .intro (redeclares_cons.1 hredeclares) fun start m' rest hsplit => ?_
      exact mt redeclares_cons.2 (hfirst (first :: start) m' rest (by rw [hsplit, List.cons_append]))
  · rintro @⟨before, after, hredeclares, hfirst⟩
    refine @FirstRedeclared.intro _ _ (first :: before) after (redeclares_cons.2 hredeclares) ?_
    intro start m' rest hsplit
    cases start with
    | nil =>
      obtain ⟨rfl, -⟩ := List.cons.inj hsplit
      exact mt redeclares_nil.1 h
    | cons first' start =>
      rw [List.cons_append, List.cons.injEq] at hsplit
      obtain ⟨rfl, hsplit⟩ := hsplit
      exact mt redeclares_cons.1 (hfirst start m' rest hsplit)

theorem firstDuplicate?_eq_some_iff :
    firstDuplicate? declared ms = some m ↔ FirstRedeclared declared m ms := by
  -- a method that redeclares nothing is among the declared ones for those after it
  induction ms generalizing declared with
  | nil => exact ⟨nofun, fun h => absurd h not_firstRedeclared_nil⟩
  | cons first ms ih =>
    rw [firstDuplicate?]
    split
    · next hmem =>
      have hmem : first.key ∈ declared := by simpa [Method.key] using hmem
      rw [firstRedeclared_cons_of_mem hmem, Option.some_inj, eq_comm]
    · next hnot =>
      have hnot : first.key ∉ declared := by simpa [Method.key] using hnot
      rw [firstRedeclared_cons_of_notMem hnot]
      exact ih

/-- Where a method redeclares one, there is a first that does. -/
theorem exists_firstRedeclared_iff : (∃ m, FirstRedeclared declared m ms) ↔
    ∃ before m after, ms = before ++ m :: after ∧ Redeclares declared before m := by
  constructor
  · rintro ⟨m, ⟨hredeclares, -⟩⟩
    exact ⟨_, m, _, rfl, hredeclares⟩
  · rintro ⟨before, m, after, rfl, hredeclares⟩
    cases h : firstDuplicate? declared (before ++ m :: after) with
    | some first => exact ⟨first, firstDuplicate?_eq_some_iff.1 h⟩
    | none =>
      obtain ⟨hnodup, hnew⟩ := firstDuplicate?_eq_none h
      rw [List.map_append, List.map_cons] at hnodup
      rcases hredeclares with hdeclared | hbefore
      · exact absurd hdeclared (hnew m (List.mem_append_right _ List.mem_cons_self))
      · exact absurd List.mem_cons_self (List.disjoint_of_nodup_append hnodup hbefore)

theorem count_key_eq_length_filter (ms : List Method) (m : Method) :
    (ms.map Method.key).count m.key = (ms.filter (·.key = m.key)).length := by
  rw [List.count_eq_countP, List.countP_map, List.countP_eq_length_filter]
  refine congrArg List.length (List.filter_congr fun m' _ => ?_)
  exact Bool.eq_iff_iff.2 (beq_iff_eq.trans decide_eq_true_iff.symm)

variable {l : Layout} {bridges : List Method} {c patched : ClassFile}
  {className name descriptor : Text}

theorem PatchError.ofRead_ne_duplicate {α : Type} {x : Except ReadError α} :
    PatchError.ofRead x ≠ .error (.duplicate className name descriptor) := by
  cases x with
  | ok a => exact ok_ne_error
  | error e =>
    intro h
    cases h

theorem SignatureText.addInterfaces_ne_duplicate {s : SignatureText} {displayName : Text} :
    s.addInterfaces l displayName ≠ .error (.duplicate className name descriptor) := by
  refine bind_ne_error PatchError.ofRead_ne_duplicate fun parsed => ?_
  refine bind_ne_error PatchError.ofRead_ne_duplicate fun segment => ?_
  split
  · exact ok_ne_error
  · intro h
    cases h

namespace ClassFile

theorem checkDuplicates_eq_duplicate_iff :
    c.checkDuplicates bridges = .error (.duplicate className name descriptor) ↔
      className = c.displayName ∧ ∃ m, FirstRedeclared (c.methods.map Method.key) m bridges ∧
        m.name = name ∧ m.descriptor = descriptor := by
  rw [checkDuplicates]
  constructor
  · intro h
    split at h
    · next m hm =>
      cases h
      exact ⟨rfl, m, firstDuplicate?_eq_some_iff.1 hm, rfl, rfl⟩
    · cases h
  · rintro ⟨rfl, m, hm, rfl, rfl⟩
    have hfirst : firstDuplicate? (c.methods.map fun m => (m.name, m.descriptor)) bridges = some m :=
      firstDuplicate?_eq_some_iff.2 hm
    rw [hfirst]

theorem checkInterfaces_ne_duplicate :
    c.checkInterfaces l ≠ .error (.duplicate className name descriptor) := by
  rw [checkInterfaces]
  split
  · intro h
    cases h
  · exact ok_ne_error

theorem addInterfaces_ne_duplicate :
    c.addInterfaces l ≠ .error (.duplicate className name descriptor) := by
  rw [addInterfaces]
  split
  · exact ok_ne_error
  · intro h
    cases h

theorem patchEmpty_eq_duplicate_iff :
    c.patchEmpty l bridges = .error (.duplicate className name descriptor) ↔
      c.checkDuplicates bridges = .error (.duplicate className name descriptor) := by
  -- no step after the first ends in a duplicate
  refine bind_eq_error_iff_of_ne fun _ => ?_
  refine bind_ne_error checkInterfaces_ne_duplicate fun _ => ?_
  refine bind_ne_error addInterfaces_ne_duplicate fun items => ?_
  split
  · exact bind_ne_error SignatureText.addInterfaces_ne_duplicate fun _ => ok_ne_error
  · intro h
    cases h

theorem nodup_patchEmpty (h : c.patchEmpty l bridges = .ok patched)
    (hnodup : (c.methods.map Method.key).Nodup) : (patched.methods.map Method.key).Nodup := by
  obtain ⟨hbridges, hnew⟩ := checkDuplicates_eq_ok (patchEmpty_eq_ok h).1
  obtain ⟨before, after, hc, hpatched⟩ := methods_patchEmpty h
  have hpermuted : (patched.methods.map Method.key).Perm
      (bridges.map Method.key ++ c.methods.map Method.key) := by
    rw [hc, hpatched, ← List.map_append]
    exact (List.perm_append_comm_assoc before bridges after).map Method.key
  refine hpermuted.nodup_iff.2 (List.nodup_append'.2 ⟨hbridges, hnodup, fun key hkey hold => ?_⟩)
  obtain ⟨m, hm, rfl⟩ := List.mem_map.1 hkey
  exact hnew m hm hold

/-- A patch is refused for a duplicate exactly if a bridge repeats a method of the class or an
earlier bridge, and the first that does is named. A patched class declares every bridge once, and
repeats no method if the class did not. -/
theorem patchEmpty_declares_once (l : Layout) (bridges : List Method) (c : ClassFile) :
    ((∃ className name descriptor,
        c.patchEmpty l bridges = .error (.duplicate className name descriptor)) ↔
      ∃ before m after, bridges = before ++ m :: after ∧
        Redeclares (c.methods.map Method.key) before m) ∧
    (∀ className name descriptor,
      c.patchEmpty l bridges = .error (.duplicate className name descriptor) ↔
        className = c.displayName ∧ ∃ m, FirstRedeclared (c.methods.map Method.key) m bridges ∧
          m.name = name ∧ m.descriptor = descriptor) ∧
    ∀ patched, c.patchEmpty l bridges = .ok patched →
      (∀ m ∈ bridges, (patched.methods.map Method.key).count m.key = 1) ∧
      ((c.methods.map Method.key).Nodup → (patched.methods.map Method.key).Nodup) := by
  have hnamed : ∀ className name descriptor,
      c.patchEmpty l bridges = .error (.duplicate className name descriptor) ↔
        className = c.displayName ∧ ∃ m, FirstRedeclared (c.methods.map Method.key) m bridges ∧
          m.name = name ∧ m.descriptor = descriptor := fun className name descriptor =>
    patchEmpty_eq_duplicate_iff.trans checkDuplicates_eq_duplicate_iff
  refine ⟨?_, hnamed, fun patched h => ⟨fun m hm => ?_, fun hnodup => nodup_patchEmpty h hnodup⟩⟩
  · rw [← exists_firstRedeclared_iff]
    constructor
    · rintro ⟨className, name, descriptor, h⟩
      obtain ⟨-, m, hm, -⟩ := (hnamed _ _ _).1 h
      exact ⟨m, hm⟩
    · rintro ⟨m, hm⟩
      exact ⟨_, _, _, (hnamed _ _ _).2 ⟨rfl, m, hm, rfl, rfl⟩⟩
  · rw [count_key_eq_length_filter, filter_methods_patchEmpty h hm]
    rfl

/-! Methods that share a name or a descriptor, and two that share both. -/

def mixedClass : ClassFile :=
  ⟨[.raw ".class N".toList, .implements Layout.default.baseInterfaceName,
    .method ⟨[], "f".toList, "()V".toList, []⟩,
    .signature ⟨"LA;Lme/dkleszyk/java/option/Option<TT;>;".toList, none⟩,
    .method ⟨[], "g".toList, "()V".toList, []⟩]⟩

def mixedBridges : List Method :=
  [⟨[], "f".toList, "()I".toList, []⟩, ⟨[], "h".toList, "()V".toList, []⟩]

/-- With other flags, the first repeats a bridge and the second a method of the class. -/
def repeatedBridges : List Method :=
  [⟨["bridge".toList], "h".toList, "()V".toList, []⟩,
    ⟨["bridge".toList], "g".toList, "()V".toList, []⟩]

theorem mixedClass_declares_once :
    (∃ patched, mixedClass.patchEmpty .default mixedBridges = .ok patched ∧
      (∀ m ∈ mixedBridges, (patched.methods.map Method.key).count m.key = 1) ∧
      (patched.methods.map Method.key).Nodup) ∧
    mixedClass.patchEmpty .default (mixedBridges ++ repeatedBridges) =
      .error (.duplicate "N".toList "h".toList "()V".toList) := by
  obtain ⟨patched, hpatched⟩ :=
    exists_ok_of_isOk (x := mixedClass.patchEmpty .default mixedBridges) (by decide +kernel)
  have hnodup : (mixedClass.methods.map Method.key).Nodup := by decide +kernel
  obtain ⟨-, -, honce⟩ := patchEmpty_declares_once .default mixedBridges mixedClass
  obtain ⟨hcount, hkept⟩ := honce patched hpatched
  obtain ⟨-, hnamed, -⟩ :=
    patchEmpty_declares_once .default (mixedBridges ++ repeatedBridges) mixedClass
  refine ⟨⟨patched, hpatched, hcount, hkept hnodup⟩, (hnamed _ _ _).2 ⟨by decide +kernel,
    ⟨["bridge".toList], "h".toList, "()V".toList, []⟩, ?_, rfl, rfl⟩⟩
  exact firstDuplicate?_eq_some_iff.1 (by decide +kernel)

end ClassFile

end ErasedBridges
