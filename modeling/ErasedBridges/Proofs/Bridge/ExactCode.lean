import ErasedBridges.Proofs.Body.Tables
import ErasedBridges.Proofs.Bridge.StackEffect

/-!
# The code of a bridge is exact

The sizes and the tables that the code of a bridge is laid out with are those that its body needs:
the greatest depth of the operand stack, the slots of the parameters, and labels that stand on one
line each.
-/

namespace ErasedBridges

open Instruction

namespace Declaration

theorem variableEntries_bodyLocals {l : Layout} {thisGeneric : Descriptor} {names : List Text}
    {descriptor : MethodDescriptor} {signature : Option MethodSignature} {is : List Instruction}
    (hlength : names.length = descriptor.params.length) :
    (Body.of (bodyLocals l thisGeneric names descriptor signature) is).variableEntries.map
        (fun e => (e.index, e.name, e.descriptor)) =
      (0, "this".toList, (Descriptor.object l.emptyClassName).text) ::
        (descriptor.params.zip names).mapIdx fun i (type, name) =>
          (firstSlot descriptor.params i, name, type.text) := by
  have hslot (i : Nat) : 0 + slotsOf ((Descriptor.object l.emptyClassName ::
      descriptor.params).take (i + 1)) = firstSlot descriptor.params i := by
    rw [Nat.zero_add, List.take_succ_cons, slotsOf_cons,
      Descriptor.slots_eq_words (Descriptor.kind_object _)]
    rfl
  rw [Body.variableEntries, Body.of, Body.placedFrom_eq_mapIdx, types_bodyLocals hlength,
    bodyLocals, List.mapIdx_cons, parameterLocals, List.mapIdx_mapIdx]
  simp only [hslot]
  rw [List.map_map, List.map_cons, List.cons.injEq]
  refine ⟨rfl, List.ext_getElem? fun i => ?_⟩
  rw [List.getElem?_map, List.getElem?_mapIdx, List.getElem?_mapIdx, Option.map_map]
  rfl

end Declaration

/-- The code of a method with these parameters, named as listed, is laid out from these
instructions. It says no more and no less of the operand stack, the local variables and the labels
than what they need. -/
structure Code.IsExact (code : Code) (is : List Instruction) (receiver : Descriptor)
    (params : List Descriptor) (names : List Text) : Prop where
  texts : code.instructions.map LabelledLine.text = is.map Instruction.text ++ [[]]
  runs : ∃ depth, Runs MovesWords is 0 depth
  stack : IsGreatest (reached is 0) code.stack
  exit : ∃ before last, is = before ++ [last] ∧ last.isExit = true ∧
    ∀ i ∈ before, i.isExit = false
  locals : code.locals = 1 + slotsOf params
  loads : ∀ kind slot, .load kind slot ∈ is →
    slot = 0 ∨ ∃ i < params.length, slot = firstSlot params i
  table : names.length = params.length ∧
    code.localVariables?.map (·.map fun e => (e.index, e.name, e.descriptor)) =
      some ((0, "this".toList, receiver.text) ::
        (params.zip names).mapIdx fun i (type, name) => (firstSlot params i, name, type.text))
  labels : ∀ item ∈ code.items, ∀ l ∈ item.tableLabels,
    (code.instructions.map LabelledLine.label).count l = 1

namespace Declaration

/-- The code of every bridge is exact, whatever pattern was chosen for the declaration. -/
theorem code_isExact {t : Target} {pattern : Pattern} {d : Declaration} {block : List Bridge}
    (h : d.synthesize t pattern = .ok block) {b : Bridge} (hb : b ∈ block) :
    b.method.descriptor = b.descriptor.text ∧
      ∃ code names, b.method.code? = some code ∧ pattern.parameterNames? = some names ∧
        code.IsExact b.body.instructions (.object t.layout.emptyClassName) b.descriptor.params
          names := by
  obtain ⟨names, thisGeneric, signature, before, exit, hnames, hlength, hbody, hemits⟩ :=
    exists_emits_of_mem_synthesize h hb
  have hargs : names.length = (Argument.ofParams b.descriptor.params).length := by
    rw [hlength, Argument.length_ofParams]
  have hcompletes := hemits.completes hnames hargs
  have hinstructions : b.body.instructions = before ++ [exit] := by
    rw [hbody]
    rfl
  rw [← hinstructions] at hcompletes
  obtain ⟨depth, hruns⟩ := hcompletes.runs
  have hnil : b.body.locals ≠ [] := by
    rw [hbody]
    exact List.cons_ne_nil _ _
  refine ⟨rfl, b.body.layOut (some b.line), names, rfl, hnames, ?_, hcompletes.runs,
    Body.isGreatest_maxStack hruns, hcompletes.exit, ?_, ?_, ⟨hlength, ?_⟩, ?_⟩
  · rw [Body.instructions_layOut, Body.texts_linesFrom]
  · rw [hbody]
    exact slotsOf_types_bodyLocals hlength
  · intro kind slot hload
    rcases List.mem_cons.1 (hcompletes.loads kind slot hload) with rfl | hslot
    · exact Or.inl rfl
    · obtain ⟨a, ha, rfl⟩ := List.mem_map.1 hslot
      obtain ⟨i, hi, hfirst⟩ := Argument.mem_ofParams.1 ha
      exact Or.inr ⟨i, (List.getElem?_eq_some_iff.1 hi).1, hfirst⟩
  · rw [Body.localVariables?_layOut hnil, Option.map_some, hbody,
      variableEntries_bodyLocals hlength]
  · intro item hitem label hlabel
    exact Body.count_tableLabels_layOut hitem hlabel

/-- Every parameter has two slots, and none is what its name says. -/
def wideDeclaration : Declaration :=
  ⟨.generic, ["abstract".toList], "ifSome".toList,
    ⟨[.ofBase .long, .ofBase .double, .ofBase .long, .ofBase .double], .void⟩, none, none⟩

def wideBridge : Bridge where
  flags := ["synthetic".toList]
  name := "ifSome".toList
  descriptor := wideDeclaration.descriptor
  body := .of
    [⟨"this".toList, .object Layout.default.emptyClassName,
        some ⟨Layout.default.emptyThisGeneric⟩⟩,
      ⟨"ifSome".toList, .ofBase .long, none⟩, ⟨"ifSomeArg".toList, .ofBase .double, none⟩,
      ⟨"ifNone".toList, .ofBase .long, none⟩, ⟨"ifNoneArg".toList, .ofBase .double, none⟩]
    [.load .reference 0, .load .long 5, .load .double 7,
      .invokeVirtual Layout.default.emptyClassName "ifNone".toList
        ⟨[.ofBase .long, .ofBase .double], .void⟩,
      .ret none]
  line := 7
  throws := []
  signature := none
  quote := none
  variant := none
  covariant := false

theorem code_isExact_wide :
    wideDeclaration.synthesize ⟨.default, 7⟩ (.ifSome .objConsumerArgOrAccept) =
        .ok [wideBridge] ∧
      ∃ code names, wideBridge.method.code? = some code ∧ code.stack = 5 ∧ code.locals = 9 ∧
        code.IsExact wideBridge.body.instructions (.object Layout.default.emptyClassName)
          wideDeclaration.descriptor.params names := by
  have hwide : wideDeclaration.synthesize ⟨.default, 7⟩ (.ifSome .objConsumerArgOrAccept) =
      .ok [wideBridge] := by decide +kernel
  obtain ⟨-, code, names, hcode, -, hexact⟩ := code_isExact hwide List.mem_cons_self
  obtain rfl : wideBridge.body.layOut (some 7) = code := Option.some.inj hcode
  exact ⟨hwide, _, names, hcode, rfl, rfl, hexact⟩

end Declaration

end ErasedBridges
