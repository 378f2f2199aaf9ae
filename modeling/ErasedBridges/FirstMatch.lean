/-!
# The first match in a list
-/

namespace ErasedBridges

/-- The first element that satisfies `p`, with what stands before and after it. -/
def splitAtFirst? {α : Type} (p : α → Bool) : List α → Option (List α × α × List α)
  | [] => none
  | a :: as =>
    if p a then some ([], a, as)
    else (splitAtFirst? p as).map fun (before, hit, after) => (a :: before, hit, after)

def modifyFirst? {α : Type} (f : α → Option α) : List α → Option (List α)
  | [] => none
  | a :: as =>
    match f a with
    | some b => some (b :: as)
    | none => (modifyFirst? f as).map (a :: ·)

theorem splitAtFirst?_eq_some {α : Type} {p : α → Bool} {as before after : List α} {hit : α}
    (h : splitAtFirst? p as = some (before, hit, after)) :
    before ++ hit :: after = as ∧ p hit = true ∧ ∀ a ∈ before, p a = false := by
  induction as generalizing before with
  | nil => simp [splitAtFirst?] at h
  | cons a as ih =>
    unfold splitAtFirst? at h
    split at h
    · next hp => simp_all
    · next hp =>
      obtain ⟨⟨b, x, r⟩, hs, he⟩ := Option.map_eq_some_iff.1 h
      simp only [Prod.mk.injEq] at he
      obtain ⟨rfl, rfl, rfl⟩ := he
      obtain ⟨rfl, hx, hb⟩ := ih hs
      simp_all

theorem forall_mem_splice {α : Type} {Q : α → Prop} {before after : List α} {a : α} :
    (∀ x ∈ before ++ a :: after, Q x) ↔ (∀ x ∈ before, Q x) ∧ Q a ∧ ∀ x ∈ after, Q x := by
  rw [List.forall_mem_append, List.forall_mem_cons]

end ErasedBridges
