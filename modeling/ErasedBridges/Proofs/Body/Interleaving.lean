import ErasedBridges.Proofs.Body.Tables

/-!
# Calls in any order

Locals and instructions are added in any order. The code of the body that comes out depends on the
locals and on the instructions, each in their order: every line has the offset of its instruction,
every local the slots that were free when it was added.
-/

namespace ErasedBridges

namespace Code

def labels (c : Code) : List Text := c.instructions.map LabelledLine.label

def variableEntries (c : Code) : List VariableEntry := c.localVariables?.getD []

def typeEntries (c : Code) : List VariableEntry := c.localTypes?.getD []

/-- The code has the lines and the tables of these locals and instructions, and nothing else. -/
structure IsLayoutOf (line : Option Nat) (locals : List LocalVariable)
    (is : List Instruction) (c : Code) : Prop where
  items : c.items = itemsOf c.instructions c.lineNumbers? c.localVariables? c.localTypes?
  /-- One line for each instruction, and a bare label. -/
  texts : c.instructions.map LabelledLine.text = is.map Instruction.text ++ [[]]
  labels : c.labels = ((is.map Instruction.size).scanl (· + ·) 0).map Body.label
  increasing : ((is.map Instruction.size).scanl (· + ·) 0).Pairwise (· < ·)
  nodup : c.labels.Nodup
  numbers : c.lineNumbers? = line.map fun n => [⟨Body.label 0, n⟩]
  names : c.variableEntries.map (fun e => (e.name, e.descriptor)) =
    locals.map fun l => (l.name, l.type.text)
  /-- Every local starts where the one before it ends, and the last one ends the locals. -/
  consecutive : c.variableEntries.map VariableEntry.index ++ [c.locals] =
    (locals.map (·.type.slots)).scanl (· + ·) 0
  disjoint : (c.variableEntries.zip locals).Pairwise fun p q =>
    (List.range' p.1.index p.2.type.slots).Disjoint (List.range' q.1.index q.2.type.slots)
  covering : (c.variableEntries.zip locals).flatMap
    (fun (e, l) => List.range' e.index l.type.slots) = List.range c.locals
  /-- The locals with a generic type have entries of the same index and name for it. -/
  types : c.typeEntries.map (fun e => (e.index, e.name, e.descriptor)) =
    (c.variableEntries.zip locals).filterMap fun (e, l) =>
      l.generic.map fun type => (e.index, e.name, type.text)
  bounds : ∀ e ∈ c.variableEntries ++ c.typeEntries,
    c.labels.head? = some e.start ∧ c.labels.getLast? = some e.stop

end Code

namespace Body

/-! ### Slots -/

theorem placedFrom_append_end (slot : Nat) (ls : List LocalVariable) :
    (placedFrom slot ls).map Prod.fst ++ [slot + slotsOf (ls.map LocalVariable.type)] =
      (ls.map (·.type.slots)).scanl (· + ·) slot := by
  induction ls generalizing slot with
  | nil => rfl
  | cons l ls ih =>
    rw [placedFrom, List.map_cons, List.map_cons, List.map_cons, List.scanl_cons, ← ih,
      slotsOf_cons, ← Nat.add_assoc, List.cons_append]

theorem flatMap_placedFrom (slot : Nat) (ls : List LocalVariable) :
    (placedFrom slot ls).flatMap (fun (slot, l) => List.range' slot l.type.slots) =
      List.range' slot (slotsOf (ls.map LocalVariable.type)) := by
  induction ls generalizing slot with
  | nil => rfl
  | cons l ls ih =>
    rw [placedFrom, List.flatMap_cons, ih, List.map_cons, slotsOf_cons, List.range'_append_1]

theorem indices_variableEntries (b : Body) :
    b.variableEntries.map VariableEntry.index = b.locals.map Prod.fst := by
  rw [variableEntries, List.map_map]
  rfl

theorem zip_variableEntries (ls : List LocalVariable) (is : List Instruction) :
    (of ls is).variableEntries.zip ls =
      (placedFrom 0 ls).map fun (slot, l) => ((of ls is).entry slot l.name l.type, l) := by
  have hzip : (of ls is).variableEntries.zip ((placedFrom 0 ls).map Prod.snd) = _ := List.zip_map'
  rw [map_snd_placedFrom] at hzip
  exact hzip

theorem variableEntries_layOut (b : Body) (line : Option Nat) :
    (b.layOut line).variableEntries = b.variableEntries := by
  rw [Code.variableEntries, Code.localVariables?_of_items (items_layOut line b), getD_listed]

theorem isLayoutOf_layOut (ls : List LocalVariable) (is : List Instruction)
    (line : Option Nat) : ((of ls is).layOut line).IsLayoutOf line ls is := by
  have hitems := items_layOut line (of ls is)
  have hlines : ((of ls is).layOut line).instructions = linesFrom 0 is := instructions_layOut
  have hlabels : ((of ls is).layOut line).labels = labelsFrom 0 is := by
    rw [Code.labels, hlines, labelsFrom]
  have hnumbers := Code.lineNumbers?_of_items hitems
  have hentries := variableEntries_layOut (of ls is) line
  have htypes : ((of ls is).layOut line).typeEntries = (of ls is).variableTypeEntries := by
    rw [Code.typeEntries, Code.localTypes?_of_items hitems, getD_listed]
  have hlocals : ((of ls is).layOut line).locals = slotsOf (ls.map LocalVariable.type) := rfl
  have htiles : ((of ls is).variableEntries.zip ls).flatMap
      (fun (e, l) => List.range' e.index l.type.slots) =
        List.range ((of ls is).layOut line).locals := by
    rw [zip_variableEntries, List.flatMap_map, hlocals, List.range_eq_range']
    exact flatMap_placedFrom 0 ls
  constructor
  case items =>
    rw [hlines, hnumbers, Code.localVariables?_of_items hitems, Code.localTypes?_of_items hitems]
    exact hitems
  case texts =>
    rw [hlines, texts_linesFrom]
  case labels =>
    rw [hlabels, labelsFrom_eq_map]
  case increasing => exact pairwise_lt_offsets 0 is
  case nodup =>
    rw [hlabels]
    exact nodup_labelsFrom 0 is
  case numbers => exact hnumbers
  case names =>
    conv_rhs => rw [← map_snd_placedFrom 0 ls, List.map_map]
    rw [hentries, variableEntries, List.map_map]
    rfl
  case consecutive =>
    rw [hentries, indices_variableEntries, hlocals, ← placedFrom_append_end, Nat.zero_add]
    rfl
  case disjoint =>
    have hnodup := List.nodup_range (n := ((of ls is).layOut line).locals)
    rw [← htiles] at hnodup
    rw [hentries]
    exact (List.nodup_flatMap.1 hnodup).2
  case covering =>
    rw [hentries]
    exact htiles
  case types =>
    rw [hentries, htypes, zip_variableEntries, variableTypeEntries, List.filterMap_map,
      List.map_filterMap]
    refine List.filterMap_congr fun p _ => ?_
    rw [Option.map_map]
    rfl
  case bounds =>
    have hfirst := head?_labelsFrom 0 is
    have hlast := getLast?_labelsFrom 0 is
    rw [Nat.zero_add] at hlast
    intro e he
    rw [hentries, htypes] at he
    have hbounds : e.start = label 0 ∧ e.stop = label (of ls is).size := by
      rcases List.mem_append.1 he with he | he
      · exact bounds_variableEntries he
      · exact bounds_variableTypeEntries he
    rw [hlabels, hbounds.1, hbounds.2]
    exact ⟨hfirst, hlast⟩

/-! ### Calls -/

/-- The code after any calls is laid out from the locals and the instructions, and the slots that
the calls give are the ones in it. Neither depends on how the calls for the locals and the calls for
the instructions are mixed. -/
theorem layOut_run (calls : List BodyCall) (line : Option Nat) :
    ((empty.run calls).2.layOut line).IsLayoutOf line (calls.filterMap BodyCall.localVariable?)
        (calls.filterMap BodyCall.instruction?) ∧
      (empty.run calls).1 =
        ((empty.run calls).2.layOut line).variableEntries.map VariableEntry.index ∧
      ∀ calls' : List BodyCall,
        calls'.filterMap BodyCall.localVariable? = calls.filterMap BodyCall.localVariable? →
        calls'.filterMap BodyCall.instruction? = calls.filterMap BodyCall.instruction? →
        (empty.run calls').1 = (empty.run calls).1 ∧
          (empty.run calls').2.layOut line = (empty.run calls).2.layOut line := by
  refine ⟨?_, ?_, fun calls' hlocals hinstructions => ?_⟩
  · rw [run_empty]
    exact isLayoutOf_layOut _ _ line
  · rw [variableEntries_layOut, indices_variableEntries, run_empty]
    rfl
  · rw [run_empty, run_empty, hlocals, hinstructions]
    exact ⟨rfl, rfl⟩

/-- A receiver with a generic type, a wide parameter after it, and the instructions that return the
parameter. -/
def wideCalls : List BodyCall :=
  [.addLocal ⟨"this".toList, .object "Box".toList, some (.object "Box<T>".toList)⟩,
    .addLocal ⟨"value".toList, .ofBase .double, none⟩, .push (.load .double 1),
    .push (.ret (some .double))]

def wideCallsMixed : List BodyCall :=
  [.push (.load .double 1),
    .addLocal ⟨"this".toList, .object "Box".toList, some (.object "Box<T>".toList)⟩,
    .push (.ret (some .double)), .addLocal ⟨"value".toList, .ofBase .double, none⟩]

theorem layOut_run_wide :
    wideCallsMixed.filterMap BodyCall.localVariable? =
        wideCalls.filterMap BodyCall.localVariable? ∧
      wideCallsMixed.filterMap BodyCall.instruction? =
        wideCalls.filterMap BodyCall.instruction? ∧
      (empty.run wideCallsMixed).2.layOut (some 7) = (empty.run wideCalls).2.layOut (some 7) ∧
      (empty.run wideCallsMixed).1 = [0, 1] ∧
      ((empty.run wideCalls).2.layOut (some 7)).labels = ["L0".toList, "L1".toList, "L2".toList] ∧
      ((empty.run wideCalls).2.layOut (some 7)).locals = 3 := by
  obtain ⟨hlayout, -, hmixed⟩ := layOut_run wideCalls (some 7)
  obtain ⟨hslots, hcode⟩ := hmixed wideCallsMixed rfl rfl
  refine ⟨rfl, rfl, hcode, hslots, ?_, rfl⟩
  rw [hlayout.labels]
  decide

end Body

end ErasedBridges
