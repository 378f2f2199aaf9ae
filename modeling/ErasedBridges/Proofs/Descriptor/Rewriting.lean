import ErasedBridges.Proofs.Descriptor.Tree

/-!
# What can be rewritten

What a walk meets, and whether it breaks off, does not depend on the texts that it puts in. A token
that can be walked to its end is the text of a tree.
-/

namespace ErasedBridges

/-- The walks meet the same names, and both give something or neither does. -/
structure Walk.Alongside (w w' : Walk Text) : Prop where
  seen : w.seen = w'.seen
  isSome : w.result.isSome = w'.result.isSome

namespace Walk.Alongside

variable {w w' : Walk Text}

theorem rfl : Alongside w w := ⟨Eq.refl _, Eq.refl _⟩

theorem map (h : Alongside w w') (g g' : Text → Text) : Alongside (w.map g) (w'.map g') :=
  ⟨h.seen, by rw [Walk.map, Walk.map, Option.isSome_map, Option.isSome_map, h.isSome]⟩

theorem bind (h : Alongside w w') {g g' : Text → Walk Text} (hg : ∀ s t, Alongside (g s) (g' t)) :
    Alongside (w.bind g) (w'.bind g') := by
  obtain ⟨seen, result⟩ := w
  obtain ⟨seen', result'⟩ := w'
  obtain ⟨rfl, hsome⟩ := h
  cases result with
  | none =>
    cases result' with
    | none => exact .rfl
    | some t => cases hsome
  | some s =>
    cases result' with
    | none => cases hsome
    | some t =>
      refine ⟨?_, (hg s t).isSome⟩
      simp only [Walk.bind, (hg s t).seen]

end Walk.Alongside

theorem Walk.isSome_of_bind {w w' : Walk Text}
    (h : (w.bind fun t => w'.map (t ++ ·)).result.isSome = true) :
    w.result.isSome = true ∧ w'.result.isSome = true := by
  rw [bind] at h
  split at h
  · cases h
  · next t ht =>
    rw [Walk.map, Option.isSome_map] at h
    exact ⟨by rw [ht]; rfl, h⟩

theorem BaseType.code_of_ofCode? {c : Char} {b : BaseType} (h : ofCode? c = some b) :
    b.code = c := by
  rw [ofCode?.eq_def] at h
  split at h <;> cases h <;> rfl

namespace Descriptor

mutual

theorem walkToken_alongside (f g : Text → Option Text) (s : Text) :
    (walkToken f s).Alongside (walkToken g s) := by
  rw [walkToken.eq_def f, walkToken.eq_def g]
  split
  · exact .rfl
  · exact (walkToken_alongside f g _).map _ _
  · split
    · exact ⟨rfl, rfl⟩
    · exact .rfl
  · exact (walkClass_alongside f g _).map _ _
  · exact .rfl
termination_by 3 * s.length
decreasing_by all_goals grind

theorem walkClass_alongside (f g : Text → Option Text) (s : Text) :
    (walkClass f s).Alongside (walkClass g s) := by
  rw [walkClass.eq_def f, walkClass.eq_def g]
  split
  · exact .rfl
  · exact (walkArguments_alongside f g _).map _ _
  · exact .rfl
  · exact (walkClass_alongside f g _).map _ _
termination_by 3 * s.length
decreasing_by all_goals grind

theorem walkArguments_alongside (f g : Text → Option Text) (s : Text) :
    (walkArguments f s).Alongside (walkArguments g s) := by
  rw [walkArguments.eq_def f, walkArguments.eq_def g]
  split
  · exact .rfl
  · exact (walkClass_alongside f g _).map _ _
  · exact (walkArguments_alongside f g _).map _ _
  · exact (walkBound_alongside f g _).map _ _
  · exact (walkBound_alongside f g _).map _ _
  · exact walkBound_alongside f g _
termination_by 3 * s.length + 2
decreasing_by all_goals grind

theorem walkBound_alongside (f g : Text → Option Text) (s : Text) :
    (walkBound f s).Alongside (walkBound g s) := by
  rw [walkBound.eq_def f, walkBound.eq_def g]
  split
  · exact .rfl
  · next token rest hscan =>
    have := length_scan hscan
    have := length_rest_lt hscan
    exact (walkToken_alongside f g token).bind fun _ _ =>
      (walkArguments_alongside f g rest).map _ _
termination_by 3 * s.length + 1
decreasing_by all_goals omega

end

/-! ### The tree of a token -/

theorem exists_baseType {s : Text} (hs : IsToken ⟨s⟩) (hnil : s ≠ [])
    (harray : ∀ t, s ≠ '[' :: t) (hvariable : ∀ t, s ≠ 'T' :: t) (hclass : ∀ t, s ≠ 'L' :: t) :
    ∃ b : BaseType, s = [b.code] := by
  obtain ⟨c, t, rfl⟩ := List.exists_cons_of_ne_nil hnil
  rw [IsToken, scan.eq_3 _ _ fun h => harray t (by rw [h])] at hs
  split at hs
  · next hbase =>
    cases hs
    obtain ⟨b, hb⟩ := Option.isSome_iff_exists.1 hbase
    exact ⟨b, by rw [BaseType.code_of_ofCode? hb]⟩
  · split at hs
    · next hnamed =>
      rcases hnamed with rfl | rfl
      · exact absurd rfl (hclass t)
      · exact absurd rfl (hvariable t)
    · cases hs

variable {f : Text → Option Text}

mutual

theorem exists_typeTree (s : Text) (hs : IsToken ⟨s⟩) (hwalk : (walkToken f s).result.isSome) :
    ∃ e : TypeTree IsName, e.text = s := by
  rw [walkToken.eq_def] at hwalk
  split at hwalk
  · cases hwalk
  · next s =>
    obtain ⟨e, rfl⟩ := exists_typeTree s (isToken_array.1 hs)
      (by simpa [Walk.cons, Walk.map] using hwalk)
    exact ⟨.array e, e.text_array⟩
  · next s =>
    split at hwalk
    · next name hname =>
      obtain rfl := Text.dropEnd?_eq_some.1 hname
      exact ⟨.reference name ((isToken_named (Or.inr rfl)).1 hs), TypeTree.text_reference _⟩
    · cases hwalk
  · next s =>
    obtain ⟨body, rfl⟩ := exists_classBody s ((isToken_named (Or.inl rfl)).1 hs)
      (by simpa [Walk.cons, Walk.map] using hwalk)
    exact ⟨.object body, TypeTree.text_object body⟩
  · next hnil harray hvariable hclass =>
    obtain ⟨b, rfl⟩ := exists_baseType hs hnil harray hvariable hclass
    exact ⟨.base b, rfl⟩
termination_by 3 * s.length
decreasing_by all_goals grind

theorem exists_classBody (s : Text) (hs : Closes 0 s) (hwalk : (walkClass f s).result.isSome) :
    ∃ body : ClassBody IsName, body.text ++ [';'] = s := by
  rw [walkClass.eq_def] at hwalk
  split at hwalk
  · cases hwalk
  · next s =>
    obtain ⟨args, body, rfl⟩ := exists_typeArguments s (closes_open.1 hs)
      (by simpa [Walk.cons, Walk.map] using hwalk)
    exact ⟨.arguments args body, by simp [ClassBody.text_arguments]⟩
  · next s =>
    split at hwalk
    · next hempty =>
      rw [List.isEmpty_iff.1 hempty]
      exact ⟨.nil, rfl⟩
    · cases hwalk
  · next c s hopen hend =>
    obtain ⟨hplain, hs⟩ := closes_plain hopen hend hs
    obtain ⟨body, rfl⟩ := exists_classBody s hs (by simpa [Walk.cons, Walk.map] using hwalk)
    exact ⟨.plain [c] hplain body, by simp [ClassBody.text_plain]⟩
termination_by 3 * s.length
decreasing_by all_goals grind

/-- Behind the arguments come the bracket that closes them and the rest of the class. -/
theorem exists_typeArguments (s : Text) (hs : Closes 1 s)
    (hwalk : (walkArguments f s).result.isSome) :
    ∃ (args : TypeArguments IsName) (body : ClassBody IsName),
      args.text ++ '>' :: (body.text ++ [';']) = s := by
  rw [walkArguments.eq_def] at hwalk
  split at hwalk
  · cases hwalk
  · next s =>
    obtain ⟨body, rfl⟩ := exists_classBody s (closes_close.1 hs)
      (by simpa [Walk.cons, Walk.map] using hwalk)
    exact ⟨.nil, body, rfl⟩
  · next s =>
    have hpass : Passes 1 ['*'] := .singleton (by decide) (by decide) (by decide)
    obtain ⟨args, body, rfl⟩ := exists_typeArguments s ((closes_append hpass le_rfl).1 hs)
      (by simpa [Walk.cons, Walk.map] using hwalk)
    exact ⟨.wildcard args, body, by simp [TypeArguments.text_wildcard]⟩
  · next s =>
    have hpass : Passes 1 ['+'] := .singleton (by decide) (by decide) (by decide)
    obtain ⟨e, args, body, rfl⟩ := exists_bound s ((closes_append hpass le_rfl).1 hs)
      (by simpa [Walk.cons, Walk.map] using hwalk)
    exact ⟨.type (some .upper) e args, body, by simp [TypeArguments.text_type, WildcardBound.char]⟩
  · next s =>
    have hpass : Passes 1 ['-'] := .singleton (by decide) (by decide) (by decide)
    obtain ⟨e, args, body, rfl⟩ := exists_bound s ((closes_append hpass le_rfl).1 hs)
      (by simpa [Walk.cons, Walk.map] using hwalk)
    exact ⟨.type (some .lower) e args, body, by simp [TypeArguments.text_type, WildcardBound.char]⟩
  · obtain ⟨e, args, body, rfl⟩ := exists_bound s hs hwalk
    exact ⟨.type none e args, body, by simp [TypeArguments.text_type]⟩
termination_by 3 * s.length + 2
decreasing_by all_goals grind

theorem exists_bound (s : Text) (hs : Closes 1 s) (hwalk : (walkBound f s).result.isSome) :
    ∃ (e : TypeTree IsName) (args : TypeArguments IsName) (body : ClassBody IsName),
      e.text ++ (args.text ++ '>' :: (body.text ++ [';'])) = s := by
  rw [walkBound.eq_def] at hwalk
  split at hwalk
  · cases hwalk
  · next token rest hscan =>
    have := length_scan hscan
    have := length_rest_lt hscan
    -- The scan of the token finds the same end as the tree: it is passed as a whole.
    rw [← (scan_append hscan).1] at hs ⊢
    have hrest := (closes_append (passes_of_scan hscan) le_rfl).1 hs
    obtain ⟨htokenWalk, hrestWalk⟩ := Walk.isSome_of_bind hwalk
    obtain ⟨e, rfl⟩ := exists_typeTree token (isToken_of_scan hscan) htokenWalk
    obtain ⟨args, body, rfl⟩ := exists_typeArguments rest hrest hrestWalk
    exact ⟨e, args, body, rfl⟩
termination_by 3 * s.length + 1
decreasing_by all_goals omega

end

/-- Whether variables can be replaced at all does not depend on by what. -/
def Rewritable (d : Descriptor) : Prop := ∀ f, ∃ d', d.mapVariables f = .ok d'

theorem rewritable_of_mapVariables {d d' : Descriptor} (h : d.mapVariables f = .ok d') :
    d.Rewritable := by
  intro g
  have hsame := (walkToken_alongside f g d.text).isSome
  rw [mapVariables_eq_ok.1 h] at hsame
  obtain ⟨s, hs⟩ := Option.isSome_iff_exists.1 hsame.symm
  exact ⟨⟨s⟩, mapVariables_eq_ok.2 hs⟩

theorem exists_tree_of_mapVariables {d d' : Descriptor} (hd : d.IsToken)
    (h : d.mapVariables f = .ok d') :
    ∃ e : TypeTree IsName, d = ⟨e.text⟩ ∧ d' = ⟨e.rewritten f⟩ := by
  obtain ⟨s⟩ := d
  obtain ⟨s'⟩ := d'
  rw [mapVariables_eq_ok] at h
  obtain ⟨e, rfl⟩ := exists_typeTree s hd (by rw [h]; rfl)
  refine ⟨e, rfl, ?_⟩
  rw [e.walk scannable_isName] at h
  exact congrArg Descriptor.mk (Option.some.inj h).symm

end Descriptor

end ErasedBridges
