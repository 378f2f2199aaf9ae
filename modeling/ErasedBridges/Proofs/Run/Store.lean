import ErasedBridges.Proofs.Run.Accounts
import ErasedBridges.Run.Memory

/-!
# Toolchains that keep texts

A toolchain keeps texts if it gives the text of a class that it took last. What it keeps after a
run is then known from the calls of the run, and so is every text that it gives on the way.
-/

namespace ErasedBridges

variable {σ α : Type}

/-- In the state `st` the text `kept st c` is kept for the class `c`: this is the text that the
toolchain gives, and a text that it takes comes in its place. -/
structure Toolchain.Keeps (t : Toolchain σ) (kept : σ → Text → Option Text) : Prop where
  disassemble {c s : Text} {st st' : σ} (h : t.disassemble c st = (.ok s, st')) :
    kept st c = some s ∧ kept st' = kept st
  assemble {c s : Text} {paths : List Path} {st st' : σ}
    (h : t.assemble c s st = (.ok paths, st')) : kept st' = Function.update (kept st) c (some s)

namespace ToolCall

def store (texts : Text → Option Text) : ToolCall → Text → Option Text
  | assembled c s (.ok _) => Function.update texts c (some s)
  | _ => texts

/-- If the call gave a text, it is the one that is kept. -/
def Serves (texts : Text → Option Text) : ToolCall → Prop
  | disassembled c (.ok s) => texts c = some s
  | _ => True

theorem store_of_written?_ne {call : ToolCall} {texts : Text → Option Text} {c : Text}
    (h : call.written? ≠ some c) : call.store texts c = texts c := by
  cases call with
  | disassembled c' r => rfl
  | assembled c' s r =>
    cases r with
    | error e => rfl
    | ok paths => exact Function.update_of_ne (fun hc => h (congrArg some hc.symm)) _ _

end ToolCall

/-- The texts that are kept after the calls. -/
def replay (texts : Text → Option Text) (calls : List ToolCall) : Text → Option Text :=
  calls.foldl ToolCall.store texts

variable {texts : Text → Option Text} {calls : List ToolCall} {c s : Text}

theorem replay_of_forall_ne (h : ∀ call ∈ calls, call.written? ≠ some c) :
    replay texts calls c = texts c := by
  induction calls generalizing texts with
  | nil => rfl
  | cons call calls ih =>
    obtain ⟨hcall, hcalls⟩ := List.forall_mem_cons.1 h
    exact (ih hcalls).trans (ToolCall.store_of_written?_ne hcall)

/-- A class that is written, and not again, has the text that was written. -/
theorem replay_of_last_write {before after : List ToolCall} {paths : List Path}
    (h : ∀ call ∈ after, call.written? ≠ some c) :
    replay texts (before ++ .assembled c s (.ok paths) :: after) c = some s := by
  rw [replay, List.foldl_append, List.foldl_cons]
  exact (replay_of_forall_ne h).trans (Function.update_self ..)

/-- Every text that was given is the one that was kept then. -/
def Served (texts : Text → Option Text) : List ToolCall → Prop
  | [] => True
  | call :: calls => call.Serves texts ∧ Served (call.store texts) calls

theorem Served.append_left {more : List ToolCall} (h : Served texts (calls ++ more)) :
    Served texts calls := by
  induction calls generalizing texts with
  | nil => trivial
  | cons call calls ih => exact ⟨h.1, ih h.2⟩

/-- Until a class is written, the text that is given for it is the one at the start. -/
theorem Served.kept_of_mem (h : Served texts calls)
    (hne : ∀ call ∈ calls, call.written? ≠ some c)
    (hmem : .disassembled c (.ok s) ∈ calls) : texts c = some s := by
  induction calls generalizing texts with
  | nil => cases hmem
  | cons call calls ih =>
    obtain ⟨hcall, hcalls⟩ := List.forall_mem_cons.1 hne
    rcases List.mem_cons.1 hmem with rfl | hmem
    · exact h.1
    · exact (ToolCall.store_of_written?_ne hcall).symm.trans (ih h.2 hcalls hmem)

namespace Toolchain.Keeps

variable {t : Toolchain σ} {kept : σ → Text → Option Text}

theorem served_execute (h : t.Keeps kept) (p : Plan α) (st : σ) :
    Served (kept st) (p.execute t st).calls := by
  induction p generalizing st with
  | done a => trivial
  | failed e => trivial
  | disassemble c next ih =>
    rw [Plan.execute]
    split
    · next s st' hcall =>
      obtain ⟨hs, hst'⟩ := h.disassemble hcall
      exact ⟨hs, hst' ▸ ih s st'⟩
    · exact ⟨trivial, trivial⟩
  | assemble c s next ih =>
    rw [Plan.execute]
    split
    · next paths st' hcall =>
      refine ⟨trivial, ?_⟩
      change Served (Function.update (kept st) c (some s)) _
      exact h.assemble hcall ▸ ih paths st'
    · exact ⟨trivial, trivial⟩
  | readSource path next ih =>
    rw [Plan.execute]
    split
    · next s _ => exact ih s st
    · trivial

/-- A failed call ends a run and may leave any state, so this is about runs that succeed. -/
theorem kept_execute (h : t.Keeps kept) (p : Plan α) (st : σ)
    (hok : (p.execute t st).result.isOk = true) :
    kept (p.execute t st).state = replay (kept st) (p.execute t st).calls := by
  induction p generalizing st with
  | done a => rfl
  | failed e => cases hok
  | disassemble c next ih =>
    rw [Plan.execute] at hok ⊢
    split at hok
    · next s st' hcall =>
      exact (ih s st' hok).trans (congrArg (replay · _) (h.disassemble hcall).2)
    · cases hok
  | assemble c s next ih =>
    rw [Plan.execute] at hok ⊢
    split at hok
    · next paths st' hcall =>
      exact (ih paths st' hok).trans (congrArg (replay · _) (h.assemble hcall))
    · cases hok
  | readSource path next ih =>
    rw [Plan.execute] at hok ⊢
    split at hok
    · next s _ => exact ih s st hok
    · cases hok

end Toolchain.Keeps

namespace Memory

def textOf? (m : Memory) (className : Text) : Option Text := m.classes.lookup className

theorem lookup_filter_ne {c c' : Text} (h : c' ≠ c) (entries : List (Text × Text)) :
    (entries.filter (·.1 != c)).lookup c' = entries.lookup c' := by
  induction entries with
  | nil => rfl
  | cons entry rest ih =>
    obtain ⟨name, s⟩ := entry
    rw [List.filter_cons]
    split
    · rw [List.lookup_cons, List.lookup_cons, ih]
    · next hname =>
      obtain rfl : name = c := by simpa using hname
      rw [ih, List.lookup_cons, beq_false_of_ne h]

theorem textOf?_store (m : Memory) (c s : Text) :
    (m.store c s).textOf? = Function.update m.textOf? c (some s) := by
  funext c'
  by_cases hc : c' = c
  · rw [hc, Function.update_self]
    exact List.lookup_cons_self
  · rw [Function.update_of_ne hc]
    change List.lookup c' ((c, s) :: m.classes.filter (·.1 != c)) = m.classes.lookup c'
    rw [List.lookup_cons, beq_false_of_ne hc]
    exact lookup_filter_ne hc m.classes

theorem keeps_toolchain : toolchain.Keeps textOf? where
  disassemble {c s st st'} h := by
    dsimp only [toolchain] at h
    split at h
    · next found hfound =>
      cases h
      exact ⟨hfound, rfl⟩
    · cases h
  assemble {c s paths st st'} h := by
    cases h
    exact textOf?_store st c s

end Memory

end ErasedBridges
