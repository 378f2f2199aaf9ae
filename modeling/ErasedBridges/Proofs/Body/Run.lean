import Mathlib
import ErasedBridges.Body.Basic

/-!
# Running the instructions of a body

The bodies of bridges do not jump, so a run goes through their instructions from the first to the
last. A step relates what an instruction finds to what it leaves. Here that is the number of words
on the operand stack: if every instruction finds the words that it takes, then the size that
`Body.maxStack` computes is the greatest number of words reached.
-/

namespace ErasedBridges

namespace Instruction

def isExit : Instruction → Bool
  | ret _ | throw => true
  | _ => false

/-- The instructions lead from one state to the other, one step each. -/
inductive Runs {σ : Type} (step : Instruction → σ → σ → Prop) : List Instruction → σ → σ → Prop
  | nil (s : σ) : Runs step [] s s
  | cons {i : Instruction} {is : List Instruction} {s s' s'' : σ} (h : step i s s')
      (hs : Runs step is s' s'') : Runs step (i :: is) s s''

section

variable {σ : Type} {step : Instruction → σ → σ → Prop} {i : Instruction}
  {is js : List Instruction} {s s' s'' : σ}

theorem runs_nil : Runs step [] s s' ↔ s' = s := by
  constructor
  · intro h
    cases h
    rfl
  · rintro rfl
    exact .nil s'

theorem runs_cons : Runs step (i :: is) s s'' ↔ ∃ s', step i s s' ∧ Runs step is s' s'' := by
  constructor
  · intro h
    cases h with
    | cons h hs => exact ⟨_, h, hs⟩
  · rintro ⟨s', h, hs⟩
    exact .cons h hs

theorem runs_singleton : Runs step [i] s s' ↔ step i s s' := by
  simp only [runs_cons, runs_nil, exists_eq_right']

theorem runs_append :
    Runs step (is ++ js) s s'' ↔ ∃ s', Runs step is s s' ∧ Runs step js s' s'' := by
  induction is generalizing s with
  | nil => simp only [List.nil_append, runs_nil, exists_eq_left]
  | cons i is ih =>
    rw [List.cons_append, runs_cons]
    simp only [ih, runs_cons]
    constructor
    · rintro ⟨t, ht, s', his, hjs⟩
      exact ⟨s', ⟨t, ht, his⟩, hjs⟩
    · rintro ⟨s', ⟨t, ht, his⟩, hjs⟩
      exact ⟨t, ht, s', his, hjs⟩

end

/-! ### Words -/

/-- The instruction finds the words that it takes on the operand stack. It leaves those below
them, and above these the words that it puts there. -/
def MovesWords (i : Instruction) (depth depth' : Nat) : Prop :=
  ∃ below, depth = below + i.popped ∧ depth' = below + i.pushed

theorem MovesWords.eq_depthAfter {i : Instruction} {depth depth' : Nat}
    (h : i.MovesWords depth depth') : depth' = Body.depthAfter depth i := by
  obtain ⟨below, rfl, rfl⟩ := h
  rw [Body.depthAfter]
  omega

/-- The numbers of words that a prefix of the instructions can lead to. -/
def reached (is : List Instruction) (depth : Nat) : Set Nat :=
  {d | ∃ js, js <+: is ∧ Runs MovesWords js depth d}

theorem mem_reached {is : List Instruction} {depth depth' d : Nat}
    (h : Runs MovesWords is depth depth') :
    d ∈ reached is depth ↔ d ∈ depth :: Body.depthsFrom depth is := by
  induction h generalizing d with
  | nil depth =>
    simp [reached, runs_nil, Body.depthsFrom]
  | @cons i is depth after depth' hstep hruns ih =>
    have hafter := hstep.eq_depthAfter
    rw [Body.depthsFrom, ← hafter, List.mem_cons, ← ih]
    constructor
    · rintro ⟨js, hjs, hd⟩
      cases js with
      | nil => exact Or.inl (runs_nil.1 hd)
      | cons j js =>
        obtain ⟨rfl, hprefix⟩ := List.cons_prefix_cons.1 hjs
        obtain ⟨t, ht, hd⟩ := runs_cons.1 hd
        rw [ht.eq_depthAfter, ← hafter] at hd
        exact Or.inr ⟨js, hprefix, hd⟩
    · rintro (rfl | ⟨js, hprefix, hd⟩)
      · exact ⟨[], List.nil_prefix, .nil _⟩
      · exact ⟨i :: js, List.cons_prefix_cons.2 ⟨rfl, hprefix⟩, .cons hstep hd⟩

end Instruction

namespace Body

theorem isGreatest_foldl_max (start : Nat) (ds : List Nat) :
    IsGreatest {d | d ∈ start :: ds} (ds.foldl max start) := by
  induction ds generalizing start with
  | nil => simp
  | cons d ds ih =>
    obtain ⟨hmem, hle⟩ := ih (max start d)
    rw [List.foldl_cons]
    constructor
    · rcases List.mem_cons.1 hmem with h | h
      · rw [h]
        rcases max_choice start d with hmax | hmax
        · simp [hmax]
        · simp [hmax]
      · exact List.mem_cons_of_mem _ (List.mem_cons_of_mem _ h)
    · intro x hx
      have hmax := hle List.mem_cons_self
      rcases List.mem_cons.1 hx with rfl | hx
      · exact (le_max_left x d).trans hmax
      · rcases List.mem_cons.1 hx with rfl | hx
        · exact (le_max_right start x).trans hmax
        · exact hle (List.mem_cons_of_mem _ hx)

/-- The stack size of a body is the greatest number of words on the stack while it runs. -/
theorem isGreatest_maxStack {b : Body} {depth : Nat}
    (h : Instruction.Runs Instruction.MovesWords b.instructions 0 depth) :
    IsGreatest (Instruction.reached b.instructions 0) b.maxStack := by
  have hreached : Instruction.reached b.instructions 0 =
      {d | d ∈ 0 :: depthsFrom 0 b.instructions} := by
    ext d
    exact Instruction.mem_reached h
  rw [hreached]
  exact isGreatest_foldl_max 0 _

end Body

end ErasedBridges
