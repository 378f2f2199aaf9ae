import ErasedBridges.Proofs.Body.Slots

/-!
# Bodies put together call by call

Calls for locals and calls for instructions do not get in each other's way. After any calls the
locals stand in their order, each in the slots after those of the local before it, and the
instructions in theirs.
-/

namespace ErasedBridges

namespace BodyCall

def localVariable? : BodyCall → Option LocalVariable
  | addLocal l => some l
  | push _ => none

def instruction? : BodyCall → Option Instruction
  | addLocal _ => none
  | push i => some i

end BodyCall

namespace Body

/-- The locals with their slots, where each is added after the one before it and the first of them
gets the slots from `slot` on. -/
def placedFrom (slot : Nat) : List LocalVariable → List (Nat × LocalVariable)
  | [] => []
  | l :: ls => (slot, l) :: placedFrom (slot + l.type.slots) ls

/-- The body with these locals and these instructions. -/
def of (ls : List LocalVariable) (is : List Instruction) : Body where
  locals := placedFrom 0 ls
  nextSlot := slotsOf (ls.map LocalVariable.type)
  instructions := is

theorem placedFrom_append (slot : Nat) (ls ms : List LocalVariable) :
    placedFrom slot (ls ++ ms) =
      placedFrom slot ls ++ placedFrom (slot + slotsOf (ls.map LocalVariable.type)) ms := by
  induction ls generalizing slot with
  | nil => rfl
  | cons l ls ih =>
    rw [List.cons_append, placedFrom, placedFrom, ih, List.map_cons, slotsOf_cons, Nat.add_assoc,
      List.cons_append]

theorem placedFrom_eq_mapIdx (slot : Nat) (ls : List LocalVariable) :
    placedFrom slot ls =
      ls.mapIdx fun i l => (slot + slotsOf ((ls.map LocalVariable.type).take i), l) := by
  induction ls generalizing slot with
  | nil => rfl
  | cons l ls ih =>
    rw [placedFrom, List.mapIdx_cons, ih]
    simp only [List.map_cons, List.take_zero, List.take_succ_cons, slotsOf_cons, Nat.add_assoc]
    rfl

theorem map_snd_placedFrom (slot : Nat) (ls : List LocalVariable) :
    (placedFrom slot ls).map Prod.snd = ls := by
  induction ls generalizing slot with
  | nil => rfl
  | cons l ls ih => rw [placedFrom, List.map_cons, ih]

theorem mem_of_mem_placedFrom {slot : Nat} {ls : List LocalVariable} {p : Nat × LocalVariable}
    (h : p ∈ placedFrom slot ls) : p.2 ∈ ls := by
  rw [← map_snd_placedFrom slot ls]
  exact List.mem_map_of_mem h

/-! ### Runs -/

theorem slotsOf_types_concat (ls : List LocalVariable) (l : LocalVariable) :
    slotsOf ((ls ++ [l]).map LocalVariable.type) =
      slotsOf (ls.map LocalVariable.type) + l.type.slots := by
  rw [List.map_append, slotsOf_append]
  rfl

theorem allocate_of (ls : List LocalVariable) (is : List Instruction) (l : LocalVariable) :
    (of ls is).allocate l = (slotsOf (ls.map LocalVariable.type), of (ls ++ [l]) is) := by
  have hlocals : placedFrom 0 (ls ++ [l]) =
      placedFrom 0 ls ++ [(slotsOf (ls.map LocalVariable.type), l)] := by
    rw [placedFrom_append, Nat.zero_add]
    rfl
  simp only [allocate, of, hlocals, slotsOf_types_concat]

theorem push_of (ls : List LocalVariable) (is : List Instruction) (i : Instruction) :
    (of ls is).push i = of ls (is ++ [i]) := rfl

/-- The slots that a run gives to locals follow those of the locals that are already there. -/
theorem run_of (ls : List LocalVariable) (is : List Instruction) (calls : List BodyCall) :
    (of ls is).run calls =
      ((placedFrom (slotsOf (ls.map LocalVariable.type))
        (calls.filterMap BodyCall.localVariable?)).map Prod.fst,
      of (ls ++ calls.filterMap BodyCall.localVariable?)
        (is ++ calls.filterMap BodyCall.instruction?)) := by
  induction calls generalizing ls is with
  | nil =>
    rw [List.filterMap_nil, List.filterMap_nil, List.append_nil, List.append_nil]
    rfl
  | cons c calls ih =>
    cases c with
    | addLocal l =>
      rw [run, allocate_of]
      simp only [ih, slotsOf_types_concat, List.append_assoc]
      rfl
    | push i =>
      rw [run, push_of, ih, List.append_assoc]
      rfl

/-- Adding locals is a run with their slots for its answer. -/
theorem run_addLocals (ls ms : List LocalVariable) (is : List Instruction) :
    (of ls is).run (ms.map .addLocal) =
      ((placedFrom (slotsOf (ls.map LocalVariable.type)) ms).map Prod.fst, of (ls ++ ms) is) := by
  have hlocals : (ms.map BodyCall.addLocal).filterMap BodyCall.localVariable? = ms := by
    rw [List.filterMap_map]
    exact List.filterMap_some
  have hinstructions : (ms.map BodyCall.addLocal).filterMap BodyCall.instruction? = [] :=
    List.filterMap_eq_nil_iff.2 (List.forall_mem_map.2 fun _ _ => rfl)
  rw [run_of, hlocals, hinstructions, List.append_nil]

theorem run_pushes (ls : List LocalVariable) (is js : List Instruction) :
    (of ls is).run (js.map .push) = ([], of ls (is ++ js)) := by
  have hlocals : (js.map BodyCall.push).filterMap BodyCall.localVariable? = [] :=
    List.filterMap_eq_nil_iff.2 (List.forall_mem_map.2 fun _ _ => rfl)
  have hinstructions : (js.map BodyCall.push).filterMap BodyCall.instruction? = js := by
    rw [List.filterMap_map]
    exact List.filterMap_some
  rw [run_of, hlocals, hinstructions, List.append_nil]
  rfl

theorem run_empty (calls : List BodyCall) :
    empty.run calls = ((placedFrom 0 (calls.filterMap BodyCall.localVariable?)).map Prod.fst,
      of (calls.filterMap BodyCall.localVariable?) (calls.filterMap BodyCall.instruction?)) :=
  run_of [] [] calls

end Body

end ErasedBridges
