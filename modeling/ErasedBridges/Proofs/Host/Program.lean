import Mathlib
import ErasedBridges.Host.Program

/-!
# Programs on a tree of files

A program that goes on after another one finds the answer and the files that this one left. So a
job in sequence succeeds exactly if each of its parts does, and its failure is that of a part.
-/

namespace ErasedBridges

variable {α β ε : Type} {run : CommandRunner} {tree tree' : FileTree}

/-! ### Files -/

namespace FileTree

theorem attempt_eq_ok {x : Except OsError FileTree} :
    tree.attempt x = (.ok (), tree') ↔ x = .ok tree' := by
  cases x with
  | error e => exact ⟨nofun, nofun⟩
  | ok left => exact ⟨fun h => congrArg Except.ok (Prod.mk.inj h).2, fun h => by cases h; rfl⟩

theorem isFile_iff_readFile {path : Path} :
    tree.isFile path = true ↔ ∃ content, tree.readFile path = .ok content := by
  rw [isFile, readFile]
  rcases tree.entry path with e | ⟨found, content | _⟩
  · exact ⟨nofun, by rintro ⟨_, ⟨⟩⟩⟩
  · exact ⟨fun _ => ⟨content, rfl⟩, fun _ => rfl⟩
  · exact ⟨nofun, by rintro ⟨_, ⟨⟩⟩⟩

end FileTree

/-! ### Programs on a tree of files -/

theorem HostProgram.onTree_bind (p : HostProgram α) (f : α → HostProgram β) :
    (p >>= f).onTree run tree = (f (p.onTree run tree).1).onTree run (p.onTree run tree).2 := by
  change (p.bind f).onTree run tree = _
  induction p generalizing tree with
  | done a => rfl
  | ask request next ih => exact ih _

namespace HostJob

/-- How a job ends, and the tree that it leaves. -/
def onTree (run : CommandRunner) (job : HostJob ε α) (tree : FileTree) : Except ε α × FileTree :=
  HostProgram.onTree run job.run tree

variable {job : HostJob ε α} {f : α → HostJob ε β}

theorem onTree_bind_of_ok {a : α} (h : onTree run job tree = (.ok a, tree')) :
    onTree run (job >>= f) tree = onTree run (f a) tree' := by
  rw [onTree, ExceptT.run_bind, HostProgram.onTree_bind]
  rw [onTree] at h
  rw [h]
  rfl

theorem onTree_bind_of_error {e : ε} (h : onTree run job tree = (.error e, tree')) :
    onTree run (job >>= f) tree = (.error e, tree') := by
  rw [onTree, ExceptT.run_bind, HostProgram.onTree_bind]
  rw [onTree] at h
  rw [h]
  rfl

theorem onTree_bind_eq_ok {b : β} : onTree run (job >>= f) tree = (.ok b, tree') ↔
    ∃ a between, onTree run job tree = (.ok a, between) ∧
      onTree run (f a) between = (.ok b, tree') := by
  constructor
  · intro h
    rcases hjob : onTree run job tree with ⟨e | a, between⟩
    · rw [onTree_bind_of_error hjob] at h
      cases h
    · exact ⟨a, between, rfl, (onTree_bind_of_ok hjob).symm.trans h⟩
  · rintro ⟨a, between, hjob, hf⟩
    exact (onTree_bind_of_ok hjob).trans hf

theorem onTree_bind_eq_error {e : ε} (h : (onTree run (job >>= f) tree).1 = .error e) :
    (onTree run job tree).1 = .error e ∨
      ∃ a between, onTree run job tree = (.ok a, between) ∧
        (onTree run (f a) between).1 = .error e := by
  rcases hjob : onTree run job tree with ⟨e' | a, between⟩
  · rw [onTree_bind_of_error hjob] at h
    exact Or.inl (congrArg Except.error (Except.error.inj h))
  · rw [onTree_bind_of_ok hjob] at h
    exact Or.inr ⟨a, between, rfl, h⟩

theorem mapError_eq_ok {δ : Type} {x : Except ε α × FileTree} {g : ε → δ} {a : α} :
    (x.1.mapError g, x.2) = (.ok a, tree') ↔ x = (.ok a, tree') := by
  rcases x with ⟨e | b, left⟩
  · constructor
    · intro h
      cases h
    · intro h
      cases h
  · rw [Except.mapError, Prod.mk.injEq, Prod.mk.injEq, Except.ok.injEq, Except.ok.injEq]

theorem onTree_request_eq_ok {fault : OsError → ε} {r : HostRequest (Except OsError α)} {a : α} :
    onTree run (request fault r) tree = (.ok a, tree') ↔ r.onTree run tree = (.ok a, tree') :=
  mapError_eq_ok

theorem onTree_lift (p : HostProgram α) : onTree run (ExceptT.lift p : HostJob ε α) tree =
    (.ok (p.onTree run tree).1, (p.onTree run tree).2) := by
  change (p >>= fun a => pure (Except.ok a) : HostProgram (Except ε α)).onTree run tree = _
  rw [HostProgram.onTree_bind]
  rfl

theorem onTree_adapt {δ : Type} (g : ε → δ) : onTree run (ExceptT.adapt g job) tree =
    ((onTree run job tree).1.mapError g, (onTree run job tree).2) := by
  change (job.run >>= fun result => pure (result.mapError g)).onTree run tree = _
  rw [HostProgram.onTree_bind]
  rfl

theorem exists_fault_of_request {fault : OsError → ε} {r : HostRequest (Except OsError α)} {e : ε}
    (h : (onTree run (request fault r) tree).1 = .error e) : ∃ o, e = fault o := by
  change (r.onTree run tree).1.mapError fault = .error e at h
  cases hanswer : (r.onTree run tree).1 with
  | error o =>
    rw [hanswer] at h
    exact ⟨o, (Except.error.inj h).symm⟩
  | ok a =>
    rw [hanswer] at h
    cases h

theorem exists_fault_of_readText {fault : OsError → ε} {path : Path} {e : ε}
    (h : (onTree run (readText fault path) tree).1 = .error e) : ∃ o, e = fault o := by
  rw [readText] at h
  rcases onTree_bind_eq_error h with hread | ⟨content, between, -, hdecode⟩
  · exact exists_fault_of_request hread
  · split at hdecode
    · cases hdecode
    · exact ⟨.notUtf8, (Except.error.inj hdecode).symm⟩

theorem onTree_readText_eq_ok {fault : OsError → ε} {path : Path} {text : Text} :
    onTree run (readText fault path) tree = (.ok text, tree') ↔
      ∃ content, tree.readFile path = .ok content ∧ Text.decode? content = some text ∧
        tree = tree' := by
  rw [readText, onTree_bind_eq_ok]
  simp only [onTree_request_eq_ok]
  constructor
  · rintro ⟨content, between, hread, hdecode⟩
    obtain ⟨hcontent, rfl⟩ := Prod.mk.inj hread
    refine ⟨content, hcontent, ?_⟩
    split at hdecode
    · next hsome =>
      cases hdecode
      exact ⟨hsome, rfl⟩
    · cases hdecode
  · rintro ⟨content, hcontent, hdecode, rfl⟩
    refine ⟨content, tree, congrArg (·, tree) hcontent, ?_⟩
    rw [hdecode]
    rfl

end HostJob

end ErasedBridges
