import ErasedBridges.FirstMatch

/-!
# Changing the first match

What a search for the first match finds and what a change of it leaves, read off the list itself:
no element before the match is one, and nothing but the match changes.
-/

namespace ErasedBridges

variable {α : Type} {p : α → Prop} {as bs : List α} {a b : α}

/-- The first element with `p` is `a`, and it gives way to `b`. Nothing else changes. -/
inductive ReplacesFirst (p : α → Prop) (a b : α) : List α → List α → Prop
  | intro {before after : List α} (hit : p a) (first : ∀ x ∈ before, ¬ p x) :
    ReplacesFirst p a b (before ++ a :: after) (before ++ b :: after)

namespace ReplacesFirst

theorem hit (h : ReplacesFirst p a b as bs) : p a := by
  obtain ⟨hit, -⟩ := h
  exact hit

theorem mem (h : ReplacesFirst p a b as bs) : a ∈ as := by
  obtain ⟨-, -⟩ := h
  exact List.mem_append_right _ List.mem_cons_self

theorem head (as : List α) (hit : p a) : ReplacesFirst p a b (a :: as) (b :: as) :=
  @intro _ _ _ _ [] as hit (List.forall_mem_nil _)

theorem cons {x : α} (hx : ¬ p x) (h : ReplacesFirst p a b as bs) :
    ReplacesFirst p a b (x :: as) (x :: bs) := by
  obtain ⟨hit, first⟩ := h
  rw [← List.cons_append, ← List.cons_append]
  exact .intro hit (List.forall_mem_cons.2 ⟨hx, first⟩)

theorem forall_mem {Q : α → Prop} (h : ReplacesFirst p a b as bs) (has : ∀ x ∈ as, Q x)
    (hab : Q a → Q b) : ∀ x ∈ bs, Q x := by
  obtain ⟨-, -⟩ := h
  obtain ⟨hbefore, ha, hafter⟩ := forall_mem_splice.1 has
  exact forall_mem_splice.2 ⟨hbefore, hab ha, hafter⟩

/-- What replaced the first match is the first match if it is one. -/
theorem again (h : ReplacesFirst p a b as bs) (hb : p b) : ReplacesFirst p b b bs bs := by
  obtain ⟨-, first⟩ := h
  exact .intro hb first

theorem find?_eq [DecidablePred p] (h : ReplacesFirst p a b as bs) :
    as.find? (fun x => p x) = some a := by
  obtain @⟨before, after, hit, first⟩ := h
  exact List.find?_eq_some_iff_append.2 ⟨by simpa using hit, before, after, rfl, by simpa using first⟩

theorem filterMap_eq {β : Type} {f : α → Option β} (h : ReplacesFirst p a b as bs)
    (hab : f a = f b) : as.filterMap f = bs.filterMap f := by
  obtain ⟨-, -⟩ := h
  rw [List.filterMap_append, List.filterMap_append, List.filterMap_cons, List.filterMap_cons, hab]

end ReplacesFirst

theorem replacesFirst_congr {q : α → Prop} (h : ∀ x, p x ↔ q x) :
    ReplacesFirst p a b as bs ↔ ReplacesFirst q a b as bs := by
  rw [show p = q from funext fun x => propext (h x)]

/-- There is something to change if there is a match. -/
theorem exists_replacesFirst_iff {f : α → α} :
    (∃ a bs, ReplacesFirst p a (f a) as bs) ↔ ∃ a ∈ as, p a := by
  constructor
  · rintro ⟨a, bs, h⟩
    exact ⟨a, h.mem, h.hit⟩
  · intro h
    induction as with
    | nil =>
      obtain ⟨a, ha, -⟩ := h
      cases ha
    | cons x as ih =>
      by_cases hx : p x
      · exact ⟨x, f x :: as, .head as hx⟩
      · obtain ⟨a, ha, hpa⟩ := h
        rcases List.mem_cons.1 ha with rfl | ha
        · exact absurd hpa hx
        · obtain ⟨a', bs, h⟩ := ih ⟨a, ha, hpa⟩
          exact ⟨a', x :: bs, h.cons hx⟩

theorem splitAtFirst?_eq_some_iff {p : α → Bool} {before after : List α} :
    splitAtFirst? p as = some (before, a, after) ↔
      as = before ++ a :: after ∧ p a = true ∧ ∀ x ∈ before, p x = false := by
  constructor
  · intro h
    obtain ⟨hsplit, hhit, hfirst⟩ := splitAtFirst?_eq_some h
    exact ⟨hsplit.symm, hhit, hfirst⟩
  · rintro ⟨rfl, hhit, hfirst⟩
    induction before with
    | nil => rw [List.nil_append, splitAtFirst?, if_pos hhit]
    | cons x before ih =>
      obtain ⟨hx, hfirst⟩ := List.forall_mem_cons.1 hfirst
      rw [List.cons_append, splitAtFirst?, if_neg (by simp [hx]), ih hfirst]
      rfl

theorem replacesFirst_iff_splitAtFirst? {p : α → Bool} :
    ReplacesFirst (fun x => p x = true) a b as bs ↔
      ∃ before after, splitAtFirst? p as = some (before, a, after) ∧
        bs = before ++ b :: after := by
  constructor
  · rintro @⟨before, after, hit, first⟩
    exact ⟨before, after, splitAtFirst?_eq_some_iff.2
      ⟨rfl, hit, fun x hx => Bool.not_eq_true _ ▸ first x hx⟩, rfl⟩
  · rintro ⟨before, after, hsplit, rfl⟩
    obtain ⟨rfl, hit, first⟩ := splitAtFirst?_eq_some_iff.1 hsplit
    exact .intro hit fun x hx => by simp [first x hx]

theorem modifyFirst?_eq_some_iff {f : α → Option α} :
    modifyFirst? f as = some bs ↔
      ∃ a b, f a = some b ∧ ReplacesFirst (fun x => (f x).isSome = true) a b as bs := by
  constructor
  · intro h
    induction as generalizing bs with
    | nil => cases h
    | cons x as ih =>
      rw [modifyFirst?] at h
      split at h
      · next b hb =>
        cases h
        refine ⟨x, b, hb, .head as ?_⟩
        rw [hb]
        rfl
      · next hx =>
        obtain ⟨bs', hbs, rfl⟩ := Option.map_eq_some_iff.1 h
        obtain ⟨a, b, hab, hreplaces⟩ := ih hbs
        exact ⟨a, b, hab, hreplaces.cons (by simp [hx])⟩
  · rintro ⟨a, b, hab, @⟨before, after, -, first⟩⟩
    induction before with
    | nil => rw [List.nil_append, List.nil_append, modifyFirst?, hab]
    | cons x before ih =>
      obtain ⟨hx, first⟩ := List.forall_mem_cons.1 first
      rw [List.cons_append, modifyFirst?, Option.not_isSome_iff_eq_none.1 hx, ih first]
      rfl

theorem modifyFirst?_ite_eq_some_iff [DecidablePred p] {change : α → α} :
    modifyFirst? (fun x => if p x then some (change x) else none) as = some bs ↔
      ∃ a, ReplacesFirst p a (change a) as bs := by
  have hp : ∀ x, (if p x then some (change x) else none).isSome = true ↔ p x := fun x => by
    by_cases hx : p x <;> simp [hx]
  rw [modifyFirst?_eq_some_iff]
  refine exists_congr fun a => ⟨?_, fun h => ⟨change a, if_pos h.hit, ?_⟩⟩
  · rintro ⟨b, hb, h⟩
    have h := (replacesFirst_congr hp).1 h
    rw [if_pos h.hit] at hb
    cases hb
    exact h
  · exact (replacesFirst_congr hp).2 h

/-! ### The first element of a kind -/

section Kind

variable {κ : Type} {make : κ → α} {read? : α → Option κ}

theorem isKind_iff (hread : ∀ {x k}, read? x = some k ↔ x = make k) (x : α) :
    (∃ k, x = make k) ↔ (read? x).isSome = true := by
  rw [Option.isSome_iff_exists]
  exact exists_congr fun k => hread.symm

/-- What is read first, before the change and after it. -/
theorem ReplacesFirst.findSome?_eq (hread : ∀ {x k}, read? x = some k ↔ x = make k) {k k' : κ}
    (h : ReplacesFirst (fun x => ∃ k, x = make k) (make k) (make k') as bs) :
    as.findSome? read? = some k ∧ bs.findSome? read? = some k' := by
  obtain @⟨before, after, -, first⟩ := h
  have hbefore : before.findSome? read? = none := by
    refine List.findSome?_eq_none_iff.2 fun x hx => Option.not_isSome_iff_eq_none.1 fun hsome => ?_
    exact first x hx ((isKind_iff hread x).2 hsome)
  simp [List.findSome?_append, hbefore, hread.2 rfl]

theorem ReplacesFirst.filterMap_kind (hread : ∀ {x k}, read? x = some k ↔ x = make k) {k k' : κ}
    (h : ReplacesFirst (fun x => ∃ k, x = make k) (make k) (make k') as bs) :
    bs.filterMap read? = k' :: (as.filterMap read?).tail := by
  obtain @⟨before, after, -, first⟩ := h
  have hbefore : before.filterMap read? = [] := by
    refine List.filterMap_eq_nil_iff.2 fun x hx => Option.not_isSome_iff_eq_none.1 fun hsome => ?_
    exact first x hx ((isKind_iff hread x).2 hsome)
  rw [List.filterMap_append, List.filterMap_append, hbefore, List.filterMap_cons_some (hread.2 rfl),
    List.filterMap_cons_some (hread.2 rfl)]
  rfl

theorem exists_replacesFirst_of_findSome? (hread : ∀ {x k}, read? x = some k ↔ x = make k) {k : κ}
    (h : as.findSome? read? = some k) (k' : κ) :
    ∃ bs, ReplacesFirst (fun x => ∃ k, x = make k) (make k) (make k') as bs := by
  obtain ⟨x, hx, hk⟩ := List.exists_of_findSome?_eq_some h
  obtain ⟨_, bs, hreplaces⟩ := (exists_replacesFirst_iff (p := fun x => ∃ k, x = make k)
    (f := fun _ => make k')).2 ⟨x, hx, k, hread.1 hk⟩
  obtain ⟨first, rfl⟩ := hreplaces.hit
  obtain rfl : k = first := Option.some.inj (h.symm.trans (hreplaces.findSome?_eq hread).1)
  exact ⟨bs, hreplaces⟩

theorem modifyFirst?_map_eq_some_iff (hread : ∀ {x k}, read? x = some k ↔ x = make k) :
    modifyFirst? (fun x => (read? x).map fun _ => b) as = some bs ↔
      ∃ k, ReplacesFirst (fun x => ∃ k, x = make k) (make k) b as bs := by
  have hkind : ∀ x, ((read? x).map fun _ => b).isSome = true ↔ ∃ k, x = make k := fun x => by
    rw [Option.isSome_map, isKind_iff hread]
  rw [modifyFirst?_eq_some_iff]
  constructor
  · rintro ⟨a, b', hab, h⟩
    obtain ⟨k, hk, rfl⟩ := Option.map_eq_some_iff.1 hab
    obtain rfl := hread.1 hk
    exact ⟨k, (replacesFirst_congr hkind).1 h⟩
  · rintro ⟨k, h⟩
    exact ⟨make k, b, by rw [hread.2 rfl]; rfl, (replacesFirst_congr hkind).2 h⟩

end Kind

end ErasedBridges
