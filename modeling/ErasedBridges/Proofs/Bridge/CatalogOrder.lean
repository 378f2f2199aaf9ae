import ErasedBridges.Proofs.Bridge.Coverage

/-!
# The order of a catalog

The interfaces are sorted by origin and those of one origin keep their order, so a catalog depends
on nothing but the interfaces of each origin. Its entries are those of the abstract methods of one
interface after the other.
-/

namespace ErasedBridges

namespace Origin

def all : List Origin := .generic :: Primitive.all.map .specialized

theorem mem_all (o : Origin) : o ∈ all := by
  cases o with
  | generic => exact List.mem_cons_self
  | specialized p => exact List.mem_cons_of_mem _ (List.mem_map_of_mem p.mem_all)

theorem pairwise_rank_all : all.Pairwise fun a b => a.rank < b.rank := by decide

end Origin

namespace Catalog

variable {l : Layout}

/-- The classes by origin, and those of one origin in the order in which they are given. -/
def inOrder (l : Layout) (classes : List ClassFile) : List (Origin × ClassFile) :=
  Origin.all.flatMap fun o => (classes.filter fun c => c.origin l = .ok o).map (o, ·)

/-- The entries of an interface go through its abstract methods, and leave out those whose
declarations need no bridge. -/
inductive Lists (l : Layout) (o : Origin) : List Method → Catalog → Prop where
  | nil : Lists l o [] []
  | concrete {m : Method} {ms : List Method} {es : Catalog} (habstract : m.isAbstract = false)
      (hrest : Lists l o ms es) : Lists l o (m :: ms) es
  | noBridge {m : Method} {ms : List Method} {d : Declaration} {es : Catalog}
      (habstract : m.isAbstract = true) (hd : Declaration.ofMethod l o m = .ok d)
      (hclass : d.classify l = .ok .noBridge) (hrest : Lists l o ms es) : Lists l o (m :: ms) es
  | bridge {m : Method} {ms : List Method} {d : Declaration} {p : Pattern} {es : Catalog}
      (habstract : m.isAbstract = true) (hd : Declaration.ofMethod l o m = .ok d)
      (hclass : d.classify l = .ok (.bridge p)) (hrest : Lists l o ms es) :
    Lists l o (m :: ms) (⟨d, p⟩ :: es)

/-! ### Sorting -/

section

variable {placed : List (Origin × ClassFile)}

/-- A list that is sorted by origin is that of the first origin, then that of the next. -/
theorem eq_flatMap_of_sorted (h : placed.Pairwise fun a b => a.1.rank ≤ b.1.rank) :
    placed = Origin.all.flatMap fun o => placed.filter fun a => a.1 = o := by
  induction h with
  | nil => rfl
  | @cons a rest ha _ ih =>
    obtain ⟨before, after, hall⟩ := List.append_of_mem a.1.mem_all
    have hranks := Origin.pairwise_rank_all
    rw [hall, List.pairwise_append, List.pairwise_cons] at hranks
    obtain ⟨-, ⟨hafter, -⟩, hbefore⟩ := hranks
    -- Nothing in the list is of an origin before that of `a`, and `a` is in front of its own.
    have hnone : ∀ o ∈ before, ∀ b ∈ a :: rest, b.1 ≠ o := by
      rintro o ho b hb rfl
      have hlt := hbefore b.1 ho a.1 List.mem_cons_self
      rcases List.mem_cons.1 hb with rfl | hb
      · omega
      · have hle := ha b hb
        omega
    have hskip {bs : List (Origin × ClassFile)} (hbs : bs ⊆ a :: rest) :
        (before.flatMap fun o => bs.filter fun b => b.1 = o) = [] := by
      rw [List.flatMap_eq_nil_iff]
      intro o ho
      rw [List.filter_eq_nil_iff]
      exact fun b hb => by simpa using hnone o ho b (hbs hb)
    have hlater : (after.flatMap fun o => (a :: rest).filter fun b => b.1 = o) =
        after.flatMap fun o => rest.filter fun b => b.1 = o := by
      refine List.flatMap_congr fun o ho => List.filter_cons_of_neg ?_
      have hlt := hafter o ho
      rw [decide_eq_true_eq]
      rintro rfl
      omega
    rw [hall, List.flatMap_append, List.flatMap_cons] at ih ⊢
    rw [hskip (List.subset_cons_self a rest), List.nil_append] at ih
    rw [hskip (List.Subset.refl _), hlater, List.filter_cons_of_pos (by simp), List.nil_append,
      List.cons_append, ← ih]

theorem rank_trans (a b c : Origin × ClassFile) : decide (a.1.rank ≤ b.1.rank) = true →
    decide (b.1.rank ≤ c.1.rank) = true → decide (a.1.rank ≤ c.1.rank) = true := by
  simpa only [decide_eq_true_eq] using Nat.le_trans

theorem rank_total (a b : Origin × ClassFile) :
    (decide (a.1.rank ≤ b.1.rank) || decide (b.1.rank ≤ a.1.rank)) = true := by
  simpa only [Bool.or_eq_true, decide_eq_true_eq] using Nat.le_total _ _

/-- The sort is stable. -/
theorem filter_sortByOrigin (o : Origin) :
    (sortByOrigin placed).filter (fun a => a.1 = o) = placed.filter fun a => a.1 = o := by
  have hsame : (placed.filter fun a => a.1 = o).Pairwise
      fun a b => decide (a.1.rank ≤ b.1.rank) = true := by
    refine List.pairwise_of_forall_mem_list fun a ha b hb => ?_
    have ho := of_decide_eq_true (List.mem_filter.1 ha).2
    have ho' := of_decide_eq_true (List.mem_filter.1 hb).2
    rw [ho, ho']
    exact decide_eq_true le_rfl
  have hsub : (placed.filter fun a => a.1 = o).Sublist (sortByOrigin placed) :=
    List.sublist_mergeSort rank_trans rank_total hsame List.filter_sublist
  have hfiltered := hsub.filter fun a => decide (a.1 = o)
  simp only [List.filter_filter, Bool.and_self] at hfiltered
  have hperm : (sortByOrigin placed).Perm placed := List.mergeSort_perm _ _
  exact (hfiltered.eq_of_length (hperm.filter _).length_eq.symm).symm

theorem sortByOrigin_eq_flatMap :
    sortByOrigin placed = Origin.all.flatMap fun o => placed.filter fun a => a.1 = o := by
  have hsorted := (List.pairwise_mergeSort rank_trans rank_total placed).imp of_decide_eq_true
  rw [← sortByOrigin] at hsorted
  rw [eq_flatMap_of_sorted hsorted]
  exact List.flatMap_congr fun o _ => filter_sortByOrigin o

theorem sortByOrigin_eq_inOrder {classes : List ClassFile}
    (h : classes.mapM (fun c => (c.origin l).map (·, c)) = .ok placed) :
    sortByOrigin placed = inOrder l classes := by
  rw [sortByOrigin_eq_flatMap, inOrder]
  refine List.flatMap_congr fun o _ => ?_
  have hplaced := mapM_eq_ok.1 h
  clear h
  induction hplaced with
  | nil => rfl
  | @cons c a classes placed ha _ ih =>
    obtain ⟨origin, horigin, rfl⟩ := map_eq_ok.1 ha
    rw [List.filter_cons, List.filter_cons, ih]
    by_cases ho : origin = o
    · rw [if_pos (decide_eq_true ho), if_pos (by rw [horigin, ho]; exact decide_eq_true rfl), ho]
      rfl
    · have hne : Except.ok (ε := PatchError) origin ≠ .ok o := fun he => ho (Except.ok.inj he)
      rw [if_neg (by simpa using ho), if_neg (by rw [horigin]; simpa using hne)]

end

/-! ### Entries -/

theorem lists_of_entries {o : Origin} {ms : List Method} {entries : List (Option CatalogEntry)}
    (h : List.Forall₂ (fun m e? => entryOf l o m = .ok e?) (ms.filter Method.isAbstract) entries) :
    Lists l o ms (entries.filterMap id) := by
  induction ms generalizing entries with
  | nil =>
    cases h
    exact .nil
  | cons m ms ih =>
    cases habstract : m.isAbstract with
    | false =>
      rw [List.filter_cons_of_neg (by simp [habstract])] at h
      exact .concrete habstract (ih h)
    | true =>
      rw [List.filter_cons_of_pos habstract] at h
      cases h with
      | cons hentry hrest =>
        have hlists := ih hrest
        obtain ⟨d, hd, ⟨hclass, rfl⟩ | ⟨p, hclass, rfl⟩⟩ := entryOf_eq_ok_iff.1 hentry
        · exact .noBridge habstract hd hclass hlists
        · exact .bridge habstract hd hclass hlists

theorem Lists.exists_entries {o : Origin} {ms : List Method} {es : Catalog} (h : Lists l o ms es) :
    ∃ entries, List.Forall₂ (fun m e? => entryOf l o m = .ok e?) (ms.filter Method.isAbstract)
      entries ∧ entries.filterMap id = es := by
  induction h with
  | nil => exact ⟨[], .nil, rfl⟩
  | concrete habstract _ ih =>
    rw [List.filter_cons_of_neg (by simp [habstract])]
    exact ih
  | noBridge habstract hd hclass _ ih =>
    obtain ⟨entries, hentries, rfl⟩ := ih
    rw [List.filter_cons_of_pos habstract]
    exact ⟨none :: entries,
      .cons (entryOf_eq_ok_iff.2 ⟨_, hd, Or.inl ⟨hclass, rfl⟩⟩) hentries, rfl⟩
  | @bridge m ms d p es habstract hd hclass _ ih =>
    obtain ⟨entries, hentries, rfl⟩ := ih
    rw [List.filter_cons_of_pos habstract]
    exact ⟨some ⟨d, p⟩ :: entries,
      .cons (entryOf_eq_ok_iff.2 ⟨d, hd, Or.inr ⟨p, hclass, rfl⟩⟩) hentries, rfl⟩

theorem ofInterface_eq_ok_iff {o : Origin} {c : ClassFile} {es : Catalog} :
    ofInterface l o c = .ok es ↔ Lists l o c.methods es := by
  rw [ofInterface, bind_eq_ok]
  simp only [mapM_eq_ok]
  constructor
  · rintro ⟨entries, hentries, he⟩
    cases he
    exact lists_of_entries hentries
  · intro h
    obtain ⟨entries, hentries, rfl⟩ := h.exists_entries
    exact ⟨entries, hentries, rfl⟩

/-- Every abstract method of a specialised interface has an entry. -/
theorem Lists.forall₂_of_specialized {v : Primitive} {ms : List Method} {es : Catalog}
    (h : Lists l (.specialized v) ms es) :
    List.Forall₂ (fun m e => Declaration.ofMethod l (.specialized v) m = .ok e.declaration ∧
        e.declaration.classify l = .ok (.bridge e.pattern))
      (ms.filter Method.isAbstract) es := by
  induction h with
  | nil => exact .nil
  | concrete habstract _ ih =>
    rw [List.filter_cons_of_neg (by simp [habstract])]
    exact ih
  | noBridge _ hd hclass _ _ =>
    have horigin := (Declaration.declares_of_ofMethod hd).origin
    rw [(Declaration.classify_eq_noBridge hclass).1] at horigin
    cases horigin
  | bridge habstract hd hclass _ ih =>
    rw [List.filter_cons_of_pos habstract]
    exact .cons ⟨hd, hclass⟩ ih

structure IsBlock (l : Layout) (a : Origin × ClassFile) (es : Catalog) : Prop where
  lists : Lists l a.1 a.2.methods es
  specialized : ∀ v, a.1 = .specialized v →
    List.Forall₂ (fun m e => Declaration.ofMethod l a.1 m = .ok e.declaration ∧
        e.declaration.classify l = .ok (.bridge e.pattern))
      (a.2.methods.filter Method.isAbstract) es

theorem isBlock_iff_ofInterface {a : Origin × ClassFile} {es : Catalog} :
    IsBlock l a es ↔ ofInterface l a.1 a.2 = .ok es := by
  rw [ofInterface_eq_ok_iff]
  refine ⟨IsBlock.lists, fun h => ⟨h, ?_⟩⟩
  obtain ⟨o, c⟩ := a
  rintro v rfl
  exact h.forall₂_of_specialized

/-! ### Catalogs -/

theorem exists_placed_iff {classes : List ClassFile} :
    (∃ placed, classes.mapM (fun c => (c.origin l).map (·, c)) = .ok placed) ↔
      ∀ c ∈ classes, ∃ o, c.origin l = .ok o := by
  simp only [mapM_eq_ok, exists_forall₂_iff, map_eq_ok]
  exact forall₂_congr fun c _ => ⟨fun ⟨_, o, ho, _⟩ => ⟨o, ho⟩, fun ⟨o, ho⟩ => ⟨_, o, ho, rfl⟩⟩

/-- There is a catalog if each class is an interface of the library and its entries can be made. -/
theorem collect_eq_ok_iff {classes : List ClassFile} {catalog : Catalog} :
    collect l classes = .ok catalog ↔ (∀ c ∈ classes, ∃ o, c.origin l = .ok o) ∧
      ∃ blocks, List.Forall₂ (IsBlock l) (inOrder l classes) blocks ∧ catalog = blocks.flatten := by
  have hblocks {blocks : List Catalog} : List.Forall₂ (IsBlock l) (inOrder l classes) blocks ↔
      (inOrder l classes).mapM (fun a => ofInterface l a.1 a.2) = .ok blocks := by
    simp only [mapM_eq_ok, ← isBlock_iff_ofInterface]
  rw [← exists_placed_iff, collect, bind_eq_ok]
  simp only [bind_eq_ok, hblocks]
  constructor
  · rintro ⟨placed, hplaced, blocks, hof, he⟩
    cases he
    rw [sortByOrigin_eq_inOrder hplaced] at hof
    exact ⟨⟨placed, hplaced⟩, blocks, hof, rfl⟩
  · rintro ⟨⟨placed, hplaced⟩, blocks, hof, rfl⟩
    rw [← sortByOrigin_eq_inOrder hplaced] at hof
    exact ⟨placed, hplaced, blocks, hof, rfl⟩

theorem perm_inOrder {classes : List ClassFile} (h : ∀ c ∈ classes, ∃ o, c.origin l = .ok o) :
    ((inOrder l classes).map Prod.snd).Perm classes := by
  obtain ⟨placed, hplaced⟩ := exists_placed_iff.2 h
  have hclasses : classes = placed.map Prod.snd := by
    rw [← List.forall₂_eq_eq_eq, List.forall₂_map_right_iff]
    refine (mapM_eq_ok.1 hplaced).imp fun c a ha => ?_
    obtain ⟨o, -, rfl⟩ := map_eq_ok.1 ha
    rfl
  have hperm : (sortByOrigin placed).Perm placed := List.mergeSort_perm _ _
  rw [← sortByOrigin_eq_inOrder hplaced, hclasses]
  exact hperm.map Prod.snd

/-- The order in which interfaces of different origins are given does not matter: the catalog goes
through them by origin. -/
theorem collect_perm {classes classes' : List ClassFile} (hperm : classes.Perm classes')
    (hstable : ∀ o, classes.filter (fun c => c.origin l = .ok o) =
      classes'.filter fun c => c.origin l = .ok o) :
    ((∃ catalog, collect l classes = .ok catalog ∧ collect l classes' = .ok catalog) ∨
      ∃ e e', collect l classes = .error e ∧ collect l classes' = .error e') ∧
    ∀ catalog, collect l classes = .ok catalog →
      ((inOrder l classes).map Prod.snd).Perm classes ∧
      ∃ blocks, List.Forall₂ (IsBlock l) (inOrder l classes) blocks ∧ catalog = blocks.flatten := by
  have horder : inOrder l classes = inOrder l classes' := by simp only [inOrder, hstable]
  have hsame (catalog : Catalog) :
      collect l classes = .ok catalog ↔ collect l classes' = .ok catalog := by
    simp only [collect_eq_ok_iff, horder, hperm.mem_iff]
  refine ⟨?_, fun catalog h => ?_⟩
  · cases h : collect l classes with
    | ok catalog => exact Or.inl ⟨catalog, rfl, (hsame catalog).1 h⟩
    | error e =>
      cases h' : collect l classes' with
      | ok catalog =>
        rw [(hsame catalog).2 h'] at h
        cases h
      | error e' => exact Or.inr ⟨e, e', rfl, rfl⟩
  · obtain ⟨horigins, hblocks⟩ := collect_eq_ok_iff.1 h
    exact ⟨perm_inOrder horigins, hblocks⟩

theorem collect_perm_small :
    smallInterfaces.Perm smallInterfaces.reverse ∧
    (∀ o, smallInterfaces.filter (fun c => c.origin smallLayout = .ok o) =
      smallInterfaces.reverse.filter fun c => c.origin smallLayout = .ok o) ∧
    collect smallLayout smallInterfaces.reverse = .ok smallCatalog := by
  have hperm : smallInterfaces.Perm smallInterfaces.reverse := (List.reverse_perm _).symm
  have hstable : ∀ o, smallInterfaces.filter (fun c => c.origin smallLayout = .ok o) =
      smallInterfaces.reverse.filter fun c => c.origin smallLayout = .ok o := by
    intro o
    cases o with
    | generic => decide +kernel
    | specialized p => cases p <;> decide +kernel
  refine ⟨hperm, hstable, ?_⟩
  obtain ⟨⟨catalog, hcatalog, hreversed⟩ | ⟨e, -, herror, -⟩, -⟩ := collect_perm hperm hstable
  · obtain rfl : smallCatalog = catalog := Except.ok.inj (collect_small.symm.trans hcatalog)
    exact hreversed
  · rw [collect_small] at herror
    cases herror

end Catalog

end ErasedBridges
