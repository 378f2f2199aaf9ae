import ErasedBridges.Proofs.Body.Calls
import ErasedBridges.Proofs.Text.Decimal

/-!
# The tables of a laid out body

Every instruction has a size, so the offsets of the instructions increase and no label stands on
two lines. The tables name the first label and the last one.
-/

namespace ErasedBridges

namespace CodeItem

def tableLabels : CodeItem → List Text
  | lineNumbers es => es.map LineEntry.label
  | localVariables es | localTypes es => es.flatMap fun e => [e.start, e.stop]
  | instruction _ | raw _ => []

end CodeItem

theorem Instruction.size_pos (i : Instruction) : 0 < i.size := by
  cases i with
  | load kind slot =>
    rw [size]
    split_ifs <;> decide
  | invoke c =>
    rw [size]
    split <;> decide
  | _ => exact Nat.succ_pos _

namespace Body

/-! ### Labels -/

theorem label_injective : Function.Injective label := by
  intro m n h
  exact Text.decimal_injective (List.cons.inj h).2

def labelsFrom (offset : Nat) (is : List Instruction) : List Text :=
  (linesFrom offset is).map LabelledLine.label

theorem labelsFrom_cons (offset : Nat) (i : Instruction) (is : List Instruction) :
    labelsFrom offset (i :: is) = label offset :: labelsFrom (offset + i.size) is := rfl

/-- The offsets of the lines are the running sums of the sizes. -/
theorem labelsFrom_eq_map (offset : Nat) (is : List Instruction) :
    labelsFrom offset is = ((is.map Instruction.size).scanl (· + ·) offset).map label := by
  induction is generalizing offset with
  | nil => rfl
  | cons i is ih => rw [labelsFrom_cons, List.map_cons, List.scanl_cons, List.map_cons, ih]

theorem le_of_mem_scanl {start n : Nat} {ns : List Nat} (h : n ∈ ns.scanl (· + ·) start) :
    start ≤ n := by
  induction ns generalizing start with
  | nil => exact (List.mem_singleton.1 h).ge
  | cons m ns ih =>
    rw [List.scanl_cons] at h
    rcases List.mem_cons.1 h with rfl | h
    · exact le_rfl
    · have := ih h
      omega

theorem pairwise_lt_scanl (start : Nat) {ns : List Nat} (h : ∀ n ∈ ns, 0 < n) :
    (ns.scanl (· + ·) start).Pairwise (· < ·) := by
  induction ns generalizing start with
  | nil => exact List.pairwise_singleton _ _
  | cons n ns ih =>
    obtain ⟨hn, hns⟩ := List.forall_mem_cons.1 h
    rw [List.scanl_cons, List.pairwise_cons]
    refine ⟨fun m hm => ?_, ih _ hns⟩
    have := le_of_mem_scanl hm
    omega

theorem pairwise_lt_offsets (offset : Nat) (is : List Instruction) :
    ((is.map Instruction.size).scanl (· + ·) offset).Pairwise (· < ·) :=
  pairwise_lt_scanl offset (List.forall_mem_map.2 fun i _ => i.size_pos)

theorem nodup_labelsFrom (offset : Nat) (is : List Instruction) :
    (labelsFrom offset is).Nodup := by
  rw [labelsFrom_eq_map]
  exact (pairwise_lt_offsets offset is).nodup.map label_injective

theorem head?_labelsFrom (offset : Nat) (is : List Instruction) :
    (labelsFrom offset is).head? = some (label offset) := by
  cases is with
  | nil => rfl
  | cons i is => rfl

theorem getLast?_labelsFrom (offset : Nat) (is : List Instruction) :
    (labelsFrom offset is).getLast? =
      some (label (offset + is.foldr (fun i n => i.size + n) 0)) := by
  induction is generalizing offset with
  | nil => rfl
  | cons i is ih =>
    rw [labelsFrom_cons, List.getLast?_cons, ih, List.foldr_cons, ← Nat.add_assoc]
    rfl

end Body

/-! ### Items -/

namespace Code

/-- Labelled lines, and after them at most one table of each kind. -/
def itemsOf (lines : List LabelledLine) (numbers : Option (List LineEntry))
    (vars types : Option (List VariableEntry)) : List CodeItem :=
  lines.map .instruction ++ (numbers.toList.map .lineNumbers ++
    (vars.toList.map .localVariables ++ types.toList.map .localTypes))

variable {c : Code} {lines : List LabelledLine} {numbers : Option (List LineEntry)}
  {vars types : Option (List VariableEntry)}

theorem findSome?_instruction {α : Type} {f : CodeItem → Option α}
    (hf : ∀ l, f (.instruction l) = none) : (lines.map .instruction).findSome? f = none :=
  List.findSome?_eq_none_iff.2 (List.forall_mem_map.2 fun l _ => hf l)

theorem instructions_of_items (h : c.items = itemsOf lines numbers vars types) :
    c.instructions = lines := by
  have hlines : (lines.map CodeItem.instruction).filterMap CodeItem.instruction? = lines := by
    rw [List.filterMap_map]
    exact List.filterMap_some
  rw [instructions, h, itemsOf, List.filterMap_append, hlines]
  cases numbers <;> cases vars <;> cases types <;> exact List.append_nil _

theorem lineNumbers?_of_items (h : c.items = itemsOf lines numbers vars types) :
    c.lineNumbers? = numbers := by
  rw [lineNumbers?, h, itemsOf, List.findSome?_append, findSome?_instruction fun _ => rfl]
  cases numbers <;> cases vars <;> cases types <;> rfl

theorem localVariables?_of_items (h : c.items = itemsOf lines numbers vars types) :
    c.localVariables? = vars := by
  rw [localVariables?, h, itemsOf, List.findSome?_append, findSome?_instruction fun _ => rfl]
  cases numbers <;> cases vars <;> cases types <;> rfl

theorem localTypes?_of_items (h : c.items = itemsOf lines numbers vars types) :
    c.localTypes? = types := by
  rw [localTypes?, h, itemsOf, List.findSome?_append, findSome?_instruction fun _ => rfl]
  cases numbers <;> cases vars <;> cases types <;> rfl

end Code

namespace Body

variable {line : Option Nat} {b : Body}

def listed (es : List VariableEntry) : Option (List VariableEntry) :=
  if es.isEmpty then none else some es

theorem items_layOut (line : Option Nat) (b : Body) :
    (b.layOut line).items = Code.itemsOf (linesFrom 0 b.instructions)
      (line.map fun n => [⟨label 0, n⟩]) (listed b.variableEntries)
      (listed b.variableTypeEntries) := by
  simp only [layOut, Code.itemsOf, listed]
  cases line <;> split_ifs <;> simp

theorem instructions_layOut : (b.layOut line).instructions = linesFrom 0 b.instructions :=
  Code.instructions_of_items (items_layOut line b)

theorem texts_linesFrom (offset : Nat) (is : List Instruction) :
    (linesFrom offset is).map LabelledLine.text = is.map Instruction.text ++ [[]] := by
  induction is generalizing offset with
  | nil => rfl
  | cons i is ih => rw [linesFrom, List.map_cons, List.map_cons, ih, List.cons_append]

theorem localVariables?_layOut (h : b.locals ≠ []) :
    (b.layOut line).localVariables? = some b.variableEntries := by
  have hentries : b.variableEntries.isEmpty = false := by
    rw [List.isEmpty_eq_false_iff, variableEntries, ne_eq, List.map_eq_nil_iff]
    exact h
  rw [Code.localVariables?_of_items (items_layOut line b), listed, hentries]
  rfl

theorem getD_listed (es : List VariableEntry) : (listed es).getD [] = es := by
  cases es with
  | nil => rfl
  | cons e es => rfl

theorem eq_of_mem_listed {es es' : List VariableEntry} (h : es' ∈ listed es) : es' = es := by
  rw [listed] at h
  split at h
  · cases h
  · exact (Option.mem_some.1 h).symm

theorem bounds_variableEntries {e : VariableEntry} (he : e ∈ b.variableEntries) :
    e.start = label 0 ∧ e.stop = label b.size := by
  obtain ⟨_, -, rfl⟩ := List.mem_map.1 he
  exact ⟨rfl, rfl⟩

theorem bounds_variableTypeEntries {e : VariableEntry} (he : e ∈ b.variableTypeEntries) :
    e.start = label 0 ∧ e.stop = label b.size := by
  obtain ⟨_, -, he⟩ := List.mem_filterMap.1 he
  obtain ⟨_, -, rfl⟩ := Option.map_eq_some_iff.1 he
  exact ⟨rfl, rfl⟩

theorem mem_tableLabels_layOut {item : CodeItem} (hitem : item ∈ (b.layOut line).items)
    {l : Text} (hl : l ∈ item.tableLabels) : l = label 0 ∨ l = label b.size := by
  have hentry {es : List VariableEntry} (hes : ∀ e ∈ es, e.start = label 0 ∧ e.stop = label b.size)
      (h : l ∈ es.flatMap fun e => [e.start, e.stop]) : l = label 0 ∨ l = label b.size := by
    obtain ⟨e, he, hmem⟩ := List.mem_flatMap.1 h
    rw [(hes e he).1, (hes e he).2, List.mem_pair] at hmem
    exact hmem
  rw [items_layOut, Code.itemsOf] at hitem
  simp only [List.mem_append, List.mem_map, Option.mem_toList] at hitem
  rcases hitem with ⟨_, -, rfl⟩ | ⟨es, hes, rfl⟩ | ⟨es, hes, rfl⟩ | ⟨es, hes, rfl⟩
  · cases hl
  · obtain ⟨n, -, rfl⟩ := Option.mem_map.1 hes
    exact Or.inl (List.mem_singleton.1 hl)
  · rw [eq_of_mem_listed hes] at hl
    exact hentry (fun _ => bounds_variableEntries) hl
  · rw [eq_of_mem_listed hes] at hl
    exact hentry (fun _ => bounds_variableTypeEntries) hl

/-- A label that a table refers to stands on exactly one line. -/
theorem count_tableLabels_layOut {item : CodeItem} (hitem : item ∈ (b.layOut line).items)
    {l : Text} (hl : l ∈ item.tableLabels) :
    ((b.layOut line).instructions.map LabelledLine.label).count l = 1 := by
  rw [instructions_layOut]
  refine List.count_eq_one_of_mem (nodup_labelsFrom 0 b.instructions) ?_
  rcases mem_tableLabels_layOut hitem hl with rfl | rfl
  · exact List.mem_of_mem_head? (head?_labelsFrom 0 b.instructions)
  · have hlast := getLast?_labelsFrom 0 b.instructions
    rw [Nat.zero_add] at hlast
    exact List.mem_of_getLast? hlast

theorem localTypes_of_mem_layOut {es : List VariableEntry}
    (h : .localTypes es ∈ (b.layOut line).items) : es = b.variableTypeEntries := by
  rw [items_layOut, Code.itemsOf] at h
  simp only [List.mem_append, List.mem_map, Option.mem_toList, reduceCtorEq, and_false,
    exists_false, false_or] at h
  obtain ⟨es', hes, hsame⟩ := h
  cases hsame
  exact eq_of_mem_listed hes

end Body

end ErasedBridges
