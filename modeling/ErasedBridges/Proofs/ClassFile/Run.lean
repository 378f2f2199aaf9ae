import ErasedBridges.Proofs.ClassFile.Step

/-!
# Runs of the reader

A run over a list of lines is a run over its first part and then over the rest. `Meets` names the
situations that reading a text goes through, and an invariant of them is proved line by line.
-/

namespace ErasedBridges

open Text

namespace ReaderState

theorem run_cons_eq_ok {n : Nat} {line : Text} {lines : List Text} {st st'' : ReaderState} :
    st.run n (line :: lines) = .ok st'' ↔
      ∃ st', Takes n line st st' ∧ st'.run (n + 1) lines = .ok st'' := by
  rw [run, bind_eq_ok]
  simp only [step_eq_ok]

theorem Takes.run {n : Nat} {line : Text} {st st' : ReaderState} (h : Takes n line st st') :
    st.run n [line] = .ok st' :=
  run_cons_eq_ok.2 ⟨st', h, rfl⟩

theorem run_append {n : Nat} (first second : List Text) (st : ReaderState) :
    st.run n (first ++ second) =
      st.run n first >>= fun st' => st'.run (n + first.length) second := by
  induction first generalizing n st with
  | nil => rfl
  | cons line lines ih =>
    have hlength : n + (line :: lines).length = n + 1 + lines.length := by
      simp only [List.length_cons]
      omega
    rw [List.cons_append, run, run, hlength]
    cases st.step n line with
    | error e => rfl
    | ok st' => exact ih st'

theorem run_append_eq_ok {n : Nat} {first second : List Text} {st st'' : ReaderState} :
    st.run n (first ++ second) = .ok st'' ↔
      ∃ st', st.run n first = .ok st' ∧ st'.run (n + first.length) second = .ok st'' := by
  rw [run_append, bind_eq_ok]

/-- If the lines of each element add it to the state, the lines of all add all of them. -/
theorem run_flatMap {ι : Type} {lines : ι → List Text} (state : List ι → ReaderState) {is : List ι}
    (h : ∀ i ∈ is, ∀ n, ∀ done, (state done).run n (lines i) = .ok (state (done ++ [i])))
    (n : Nat) (done : List ι) :
    (state done).run n (is.flatMap lines) = .ok (state (done ++ is)) := by
  induction is generalizing n done with
  | nil => rw [List.append_nil]; rfl
  | cons i is ih =>
    obtain ⟨hi, his⟩ := List.forall_mem_cons.1 h
    rw [List.flatMap_cons, run_append_eq_ok]
    refine ⟨state (done ++ [i]), hi n done, ?_⟩
    rw [ih his, List.append_assoc, List.singleton_append]

/-- A line adds an item, or a block is open after it. -/
theorem Takes.items_ne_nil {n : Nat} {line : Text} {st st' : ReaderState}
    (h : Takes n line st st') (hblock : st'.block = .none) : st'.items ≠ [] := by
  cases h <;> first | exact List.concat_ne_nil _ _ | cases hblock

theorem finish_eq_ok {st : ReaderState} {c : ClassFile} :
    st.finish = .ok c ↔ st = ⟨c.items, .none⟩ := by
  obtain ⟨items, block⟩ := st
  obtain ⟨items'⟩ := c
  cases block <;> simp [finish, OpenBlock.block?]

end ReaderState

namespace ClassFile

theorem read_eq_ok {t : Text} {c : ClassFile} :
    read t = .ok c ↔ ReaderState.initial.run 1 (textLines t) = .ok ⟨c.items, .none⟩ := by
  rw [read, bind_eq_ok]
  simp only [ReaderState.finish_eq_ok]
  exact ⟨by rintro ⟨st, h, rfl⟩; exact h, fun h => ⟨_, h, rfl⟩⟩

/-- The reader of `t` comes to `line` in the state `st`, after it has taken the lines `done`. -/
structure Meets (t : Text) (done : List Text) (line : Text) (st : ReaderState) : Prop where
  lines : done ++ [line] <+: textLines t
  state : ReaderState.initial.run 1 done = .ok st

/-- A text is read in one way: its reader comes to each line in one state. -/
theorem Meets.unique {t line₁ line₂ : Text} {done₁ done₂ : List Text} {st₁ st₂ : ReaderState}
    (h₁ : Meets t done₁ line₁ st₁) (h₂ : Meets t done₂ line₂ st₂)
    (hlength : done₁.length = done₂.length) : done₁ = done₂ ∧ line₁ = line₂ ∧ st₁ = st₂ := by
  have hlines : done₁ ++ [line₁] = done₂ ++ [line₂] := by
    have hle : (done₁ ++ [line₁]).length ≤ (done₂ ++ [line₂]).length := by simp [hlength]
    exact (List.prefix_of_prefix_length_le h₁.lines h₂.lines hle).eq_of_length (by simp [hlength])
  obtain ⟨rfl, hline⟩ := List.append_inj hlines hlength
  obtain rfl : line₁ = line₂ := by simpa using hline
  exact ⟨rfl, rfl, Except.ok.inj (h₁.state.symm.trans h₂.state)⟩

/-- What holds at the start and is kept by every line of a text holds once it is read. -/
theorem read_induction {t : Text} {motive : List Text → ReaderState → Prop}
    (initial : motive [] .initial)
    (step : ∀ done line st st', Meets t done line st →
      ReaderState.Takes (done.length + 1) line st st' → motive done st →
        motive (done ++ [line]) st')
    {c : ClassFile} (h : read t = .ok c) : motive (textLines t) ⟨c.items, .none⟩ := by
  have hall : ∀ done, done <+: textLines t → ∀ st,
      ReaderState.initial.run 1 done = .ok st → motive done st := by
    intro done
    induction done using List.reverseRecOn with
    | nil =>
      rintro - st ⟨⟩
      exact initial
    | append_singleton done line ih =>
      intro hpre st' hrun
      obtain ⟨st, hdone, hline⟩ := ReaderState.run_append_eq_ok.1 hrun
      obtain ⟨st'', htakes, hend⟩ := ReaderState.run_cons_eq_ok.1 hline
      cases hend
      rw [Nat.add_comm] at htakes
      exact step done line st _ ⟨hpre, hdone⟩ htakes
        (ih ((List.prefix_append done [line]).trans hpre) st hdone)
  exact hall _ List.prefix_rfl _ (read_eq_ok.1 h)

theorem items_ne_nil_of_read {t : Text} {c : ClassFile} (h : read t = .ok c) : c.items ≠ [] := by
  have hall := read_induction
    (motive := fun done st => done ≠ [] → st.block = .none → st.items ≠ []) nofun
    (fun _ _ _ _ _ htakes _ _ => htakes.items_ne_nil) h
  refine hall ?_ rfl
  rw [textLines, ne_eq, List.map_eq_nil_iff]
  exact split_ne_nil _ t

end ClassFile

end ErasedBridges
