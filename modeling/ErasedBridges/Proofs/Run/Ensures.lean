import Mathlib
import ErasedBridges.Run.Plan

/-!
# What a plan ensures

A plan does not know its toolchain. `Ensures Q E` asks of a plan that it ends well whatever it is
answered: with a value and calls for which `Q` holds, or with a failure and calls for which `E`
holds. The rules follow the plan from its first step to its last, and `Ensures.execute` says that
a run against a toolchain is one way of answering.
-/

namespace ErasedBridges

namespace Plan

variable {α β ι σ : Type}

/-! ### Plans in sequence -/

theorem bind_done (p : Plan α) : p.bind done = p := by
  induction p with
  | done a => rfl
  | failed e => rfl
  | disassemble c next ih => exact congrArg (disassemble c) (funext ih)
  | assemble c s next ih => exact congrArg (assemble c s) (funext ih)
  | readSource path next ih => exact congrArg (readSource path) (funext ih)

theorem bind_assoc {γ : Type} (p : Plan α) (f : α → Plan β) (g : β → Plan γ) :
    (p.bind f).bind g = p.bind fun a => (f a).bind g := by
  induction p with
  | done a => rfl
  | failed e => rfl
  | disassemble c next ih => exact congrArg (disassemble c) (funext ih)
  | assemble c s next ih => exact congrArg (assemble c s) (funext ih)
  | readSource path next ih => exact congrArg (readSource path) (funext ih)

instance : LawfulMonad Plan := .mk' Plan bind_done (fun _ _ => rfl) bind_assoc

/-! ### Rules -/

/-- Whatever is answered, after the calls so far the plan ends with a value and calls that satisfy
`Q`, or with a failure and calls that satisfy `E`. -/
def Ensures (Q : α → List ToolCall → Prop) (E : JobError → List ToolCall → Prop) :
    Plan α → List ToolCall → Prop
  | done a, calls => Q a calls
  | failed e, calls => E e calls
  | disassemble c next, calls =>
    (∀ s, (next s).Ensures Q E (calls ++ [.disassembled c (.ok s)])) ∧
      ∀ e, E e (calls ++ [.disassembled c (.error e)])
  | assemble c s next, calls =>
    (∀ paths, (next paths).Ensures Q E (calls ++ [.assembled c s (.ok paths)])) ∧
      ∀ e, E e (calls ++ [.assembled c s (.error e)])
  | readSource path next, calls =>
    (∀ s, (next s).Ensures Q E calls) ∧ ∀ e, E (.os path e) calls

variable {Q Q' : α → List ToolCall → Prop} {E : JobError → List ToolCall → Prop}
  {calls : List ToolCall}

theorem Ensures.mono {p : Plan α} (h : p.Ensures Q E calls)
    (hQ : ∀ a calls, Q a calls → Q' a calls) : p.Ensures Q' E calls := by
  induction p generalizing calls with
  | done a => exact hQ a calls h
  | failed e => exact h
  | disassemble c next ih => exact ⟨fun s => ih s (h.1 s), h.2⟩
  | assemble c s next ih => exact ⟨fun paths => ih paths (h.1 paths), h.2⟩
  | readSource path next ih => exact ⟨fun s => ih s (h.1 s), h.2⟩

theorem ensures_pure {a : α} : (pure a : Plan α).Ensures Q E calls ↔ Q a calls := Iff.rfl

theorem ensures_bind {p : Plan α} {f : α → Plan β} {R : β → List ToolCall → Prop} :
    (p >>= f).Ensures R E calls ↔ p.Ensures (fun a calls => (f a).Ensures R E calls) E calls := by
  change (p.bind f).Ensures R E calls ↔ _
  induction p generalizing calls with
  | done a => exact Iff.rfl
  | failed e => exact Iff.rfl
  | disassemble c next ih => exact and_congr_left' (forall_congr' fun s => ih s)
  | assemble c s next ih => exact and_congr_left' (forall_congr' fun paths => ih paths)
  | readSource path next ih => exact and_congr_left' (forall_congr' fun s => ih s)

theorem ensures_ofPatch {c : Text} {x : Except PatchError α} :
    (ofPatch c x).Ensures Q E calls ↔
      (∀ a, x = .ok a → Q a calls) ∧ ∀ e, x = .error e → E (.patch c e) calls := by
  cases x with
  | ok a => exact ⟨fun h => ⟨fun _ ha => Except.ok.inj ha ▸ h, nofun⟩, fun h => h.1 a rfl⟩
  | error e => exact ⟨fun h => ⟨nofun, fun _ he => Except.error.inj he ▸ h⟩, fun h => h.2 e rfl⟩

/-- An invariant over the elements that are done, in order, and their values. -/
theorem ensures_mapM {f : ι → Plan α} {I : List ι → List α → List ToolCall → Prop} {todo : List ι}
    (step : ∀ done i rest as calls, todo = done ++ i :: rest → I done as calls →
      (f i).Ensures (fun a calls => I (done ++ [i]) (as ++ [a]) calls) E calls)
    (start : I [] [] calls) : (todo.mapM f).Ensures (I todo) E calls := by
  -- The induction is on what is left to do, and the invariant is about what is done.
  have hall : ∀ rest done as calls, todo = done ++ rest → I done as calls →
      (rest.mapM f).Ensures (fun bs calls => I todo (as ++ bs) calls) E calls := by
    intro rest
    induction rest with
    | nil =>
      intro done as calls htodo hI
      rw [List.mapM_nil, ensures_pure]
      rw [htodo, List.append_nil, List.append_nil]
      exact hI
    | cons i rest ih =>
      intro done as calls htodo hI
      rw [List.mapM_cons, ensures_bind]
      refine (step done i rest as calls htodo hI).mono fun a calls hI => ?_
      rw [ensures_bind]
      refine (ih (done ++ [i]) (as ++ [a]) calls (by simpa using htodo) hI).mono
        fun bs calls hI => ?_
      simpa [ensures_pure] using hI
  simpa using hall todo [] [] calls rfl start

/-! ### Runs -/

/-- After a plan that ends with a value, the next one goes on from its state. -/
theorem execute_bind {p : Plan α} {f : α → Plan β} {t : Toolchain σ} {st : σ} {a : α}
    (h : (p.execute t st).result = .ok a) : (p >>= f).execute t st =
      let rest := (f a).execute t (p.execute t st).state
      { rest with calls := (p.execute t st).calls ++ rest.calls } := by
  change (p.bind f).execute t st = _
  induction p generalizing st with
  | done a' =>
    cases h
    rfl
  | failed e => cases h
  | disassemble c next ih =>
    rw [execute] at h
    rw [bind, execute, execute]
    split at h
    · rw [ih _ h]
      rfl
    · cases h
  | assemble c s next ih =>
    rw [execute] at h
    rw [bind, execute, execute]
    split at h
    · rw [ih _ h]
      rfl
    · cases h
  | readSource path next ih =>
    rw [execute] at h
    rw [bind, execute, execute]
    split at h
    · exact ih _ h
    · cases h

/-- What a plan ensures holds at the end of every run of it. -/
theorem Ensures.execute {p : Plan α} (h : p.Ensures Q E calls) (t : Toolchain σ) (st : σ) :
    (∀ a, (p.execute t st).result = .ok a → Q a (calls ++ (p.execute t st).calls)) ∧
      ∀ e, (p.execute t st).result = .error e → E e (calls ++ (p.execute t st).calls) := by
  induction p generalizing calls st with
  | done a =>
    refine ⟨fun _ ha => ?_, nofun⟩
    cases ha
    rwa [Plan.execute, List.append_nil]
  | failed e =>
    refine ⟨nofun, fun _ he => ?_⟩
    cases he
    rwa [Plan.execute, List.append_nil]
  | disassemble c next ih =>
    rw [Plan.execute]
    split
    · next s st' _ => simpa using ih s (h.1 s) st'
    · next e st' _ =>
      refine ⟨nofun, fun _ he => ?_⟩
      cases he
      exact h.2 e
  | assemble c s next ih =>
    rw [Plan.execute]
    split
    · next paths st' _ => simpa using ih paths (h.1 paths) st'
    · next e st' _ =>
      refine ⟨nofun, fun _ he => ?_⟩
      cases he
      exact h.2 e
  | readSource path next ih =>
    rw [Plan.execute]
    split
    · next s _ => exact ih s (h.1 s) st
    · next e _ =>
      refine ⟨nofun, fun _ he => ?_⟩
      cases he
      rw [List.append_nil]
      exact h.2 e

end Plan

end ErasedBridges
