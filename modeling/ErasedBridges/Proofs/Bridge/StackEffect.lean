import ErasedBridges.Proofs.Body.Run
import ErasedBridges.Proofs.Bridge.Emission
import ErasedBridges.Proofs.Descriptor.Kind

/-!
# The words on the operand stack

Whatever its pattern and whatever method it is for, a body finds on the operand stack every word
that it takes, leaves through its last instruction only and loads from the slots of its parameters.
-/

namespace ErasedBridges

open Instruction

/-! ### Straight code -/

/-- Instructions that stay in the method, load from these slots only, and take the operand stack
from one number of words to another. -/
structure Delivers (slots : List Nat) (depth : Nat) (is : List Instruction) (depth' : Nat) :
    Prop where
  runs : Runs MovesWords is depth depth'
  stays : ∀ i ∈ is, i.isExit = false
  loads : ∀ kind slot, .load kind slot ∈ is → slot ∈ slots

namespace Delivers

variable {slots : List Nat} {depth depth' depth'' : Nat} {is js : List Instruction}

theorem nil : Delivers slots depth [] depth := ⟨.nil _, nofun, nofun⟩

theorem append (hi : Delivers slots depth is depth') (hj : Delivers slots depth' js depth'') :
    Delivers slots depth (is ++ js) depth'' := by
  refine ⟨runs_append.2 ⟨depth', hi.runs, hj.runs⟩,
    List.forall_mem_append.2 ⟨hi.stays, hj.stays⟩, ?_⟩
  intro kind slot h
  rcases List.mem_append.1 h with h | h
  · exact hi.loads kind slot h
  · exact hj.loads kind slot h

theorem load {kind : ValueKind} {slot : Nat} (h : slot ∈ slots) :
    Delivers slots depth [.load kind slot] (depth + kind.words) := by
  refine ⟨runs_singleton.2 ⟨depth, rfl, rfl⟩, by simp [isExit], ?_⟩
  intro kind' slot' hmem
  cases List.mem_singleton.1 hmem
  exact h

theorem zero : Delivers slots depth [.zero] (depth + 1) :=
  ⟨runs_singleton.2 ⟨depth, rfl, rfl⟩, by simp [isExit], by simp⟩

theorem cast {name : Text} : Delivers slots (depth + 1) [.cast name] (depth + 1) :=
  ⟨runs_singleton.2 ⟨depth, rfl, rfl⟩, by simp [isExit], by simp⟩

theorem invoke {c : Callee} (h : c.argumentWords ≤ depth) :
    Delivers slots depth [.invoke c]
      (depth - c.argumentWords + c.descriptor.returnType.slots) := by
  refine ⟨runs_singleton.2 ⟨depth - c.argumentWords, ?_, rfl⟩, by simp [isExit], by simp⟩
  rw [popped]
  omega

/-- A static call without parameters leaves the reference that it returns. -/
theorem staticReference {onInterface : Bool} {owner name : Text} {returnType : Descriptor}
    (h : ValueKind.of? returnType = some .reference) :
    Delivers slots 0 [.invoke ⟨.static, onInterface, owner, name, ⟨[], returnType⟩⟩] 1 := by
  have hinvoke : Delivers slots 0 [.invoke ⟨.static, onInterface, owner, name, ⟨[], returnType⟩⟩]
      (0 - 0 + returnType.slots) := Delivers.invoke (Nat.le_refl 0)
  rw [Descriptor.slots_eq_words h] at hinvoke
  exact hinvoke

end Delivers

/-- Instructions that load from these slots only and run from an empty operand stack to the last
of them, which is the only exit. -/
structure Completes (slots : List Nat) (is : List Instruction) : Prop where
  runs : ∃ depth, Runs MovesWords is 0 depth
  exit : ∃ before last, is = before ++ [last] ∧ last.isExit = true ∧
    ∀ i ∈ before, i.isExit = false
  loads : ∀ kind slot, .load kind slot ∈ is → slot ∈ slots

theorem Delivers.completes {slots : List Nat} {before : List Instruction} {depth : Nat}
    (h : Delivers slots 0 before depth) {exit : Instruction} (hexit : exit.isExit = true)
    (hpopped : exit.popped ≤ depth) : Completes slots (before ++ [exit]) := by
  refine ⟨?_, ⟨before, exit, rfl, hexit, h.stays⟩, ?_⟩
  · refine ⟨depth - exit.popped + exit.pushed, runs_append.2 ⟨depth, h.runs, ?_⟩⟩
    exact runs_singleton.2 ⟨depth - exit.popped, by omega, rfl⟩
  · intro kind slot hmem
    rcases List.mem_append.1 hmem with hmem | hmem
    · exact h.loads kind slot hmem
    · cases List.mem_singleton.1 hmem
      cases hexit

/-! ### Parts of the bodies -/

namespace Argument

variable {slots : List Nat} {args : List Argument} (hargs : ∀ a ∈ args, a.slot ∈ slots)
  (depth : Nat)

include hargs

/-- Loading all arguments puts at least their words on the operand stack, and one for each. -/
theorem delivers_loads : ∃ depth', Delivers slots depth (args.map load) depth' ∧
    depth + slotsOf (args.map type) ≤ depth' ∧ depth + args.length ≤ depth' := by
  induction args generalizing depth with
  | nil => exact ⟨depth, .nil, le_rfl, le_rfl⟩
  | cons a as ih =>
    obtain ⟨ha, has⟩ := List.forall_mem_cons.1 hargs
    obtain ⟨depth', hloads, hslots, hlength⟩ :=
      ih has (depth + ((ValueKind.of? a.type).getD .reference).words)
    have hwords := a.slots_le_words
    have hpos := ((ValueKind.of? a.type).getD .reference).words_pos
    refine ⟨depth', (Delivers.load ha).append hloads, ?_, ?_⟩
    · rw [List.map_cons, slotsOf_cons]
      omega
    · rw [List.length_cons]
      omega

theorem delivers_loadReferences :
    Delivers slots depth (args.map loadReference) (depth + args.length) := by
  induction args generalizing depth with
  | nil => exact .nil
  | cons a as ih =>
    obtain ⟨ha, has⟩ := List.forall_mem_cons.1 hargs
    rw [List.length_cons, Nat.add_comm as.length 1, ← Nat.add_assoc]
    have hload : Delivers slots depth [a.loadReference] (depth + 1) := Delivers.load ha
    exact hload.append (ih has (depth + 1))

end Argument

/-- The call finds its arguments, which are as many as the supplied value needs, and leaves the
value. -/
theorem Supplied.delivers {slots : List Nat} {args : List Argument}
    (hargs : ∀ a ∈ args, a.slot ∈ slots) (s : Supplied)
    (hlength : s.parameterNames.length = args.length) (name : Text) :
    Delivers slots 0 (args.map Argument.loadReference ++ [s.call, .cast name]) 1 := by
  have hcall : Delivers slots args.length [s.call] 1 := by
    rw [← hlength]
    cases s with
    | supplier => exact Delivers.invoke (by decide)
    | function => exact Delivers.invoke (by decide)
  have hloads := Argument.delivers_loadReferences hargs 0
  rw [Nat.zero_add] at hloads
  exact hloads.append (hcall.append .cast)

namespace Pattern

theorem delivers_emptyInstance {slots : List Nat} (l : Layout) :
    Delivers slots 0 [emptyInstance l] 1 :=
  Delivers.staticReference (Descriptor.kind_object l.baseInterfaceName)

theorem delivers_forwarding {slots : List Nat} (hreceiver : 0 ∈ slots) (l : Layout)
    {args : List Argument} (hargs : ∀ a ∈ args, a.slot ∈ slots) :
    ∃ depth, Delivers slots 0 (forwarding l args) depth := by
  rw [forwarding]
  split_ifs
  · exact ⟨0, .nil⟩
  · obtain ⟨depth, hloads, hslots, -⟩ := Argument.delivers_loads hargs 1
    have hreceiver : Delivers slots 0 [.load .reference 0] 1 := Delivers.load hreceiver
    exact ⟨_, hreceiver.append (hloads.append (Delivers.invoke hslots))⟩

section

variable {l : Layout} {args : List Argument} {returnType : Descriptor} {pattern : Pattern}
  {before : List Instruction} {exit : Instruction} {names : List Text}

/-- Whatever a pattern emits for as many parameters as it has names completes, and loads from the
slot of the receiver or of a parameter only. -/
theorem Emits.completes (h : Emits l args returnType pattern before exit)
    (hnames : pattern.parameterNames? = some names) (hlength : names.length = args.length) :
    Completes (0 :: args.map Argument.slot) (before ++ [exit]) := by
  have hargs : ∀ a ∈ args, a.slot ∈ 0 :: args.map Argument.slot := fun a ha =>
    List.mem_cons_of_mem _ (List.mem_map_of_mem ha)
  have hload {a : Argument} (ha : args = [a]) (kind : ValueKind) :
      Delivers (0 :: args.map Argument.slot) 0 [.load kind a.slot] kind.words := by
    have hdelivers : Delivers (0 :: args.map Argument.slot) 0 [.load kind a.slot]
        (0 + kind.words) := Delivers.load (hargs a (by simp [ha]))
    rw [Nat.zero_add] at hdelivers
    exact hdelivers
  cases h with
  | throwNotPresent =>
    exact (Delivers.staticReference (Descriptor.kind_object _)).completes rfl le_rfl
  | emptyOf hc =>
    exact (Delivers.staticReference (Descriptor.kind_of_className? hc)).completes rfl le_rfl
  | @throwSupplied s =>
    cases hnames
    exact (s.delivers hargs hlength throwable).completes rfl le_rfl
  | returnArgument ha | orElse ha =>
    -- a reference is popped, whatever the kind of the value is
    exact (hload ha _).completes rfl (ValueKind.words_pos _)
  | @orGet s c | @orElseGet s c =>
    cases hnames
    exact (s.delivers hargs hlength c).completes rfl le_rfl
  | filter hc =>
    have hnarrow : ∀ c, Delivers (0 :: args.map Argument.slot) 1
        (if c = l.baseInterfaceName then [] else [.cast c]) 1 := by
      intro c
      split_ifs
      · exact .nil
      · exact .cast
    exact ((delivers_emptyInstance l).append (hnarrow _)).completes rfl le_rfl
  | test => exact Delivers.zero.completes rfl le_rfl
  | @ifSome shape =>
    have hforwarded : ∀ a ∈ shape.forwarded.filterMap (args[·]?),
        a.slot ∈ 0 :: args.map Argument.slot := fun a ha => hargs a (forwarded_subset shape args ha)
    obtain ⟨depth, hdelivers⟩ := delivers_forwarding List.mem_cons_self l hforwarded
    exact hdelivers.completes rfl (Nat.zero_le depth)
  | primitiveOrElse ha => exact (hload ha _).completes rfl le_rfl
  | @primitiveOrElseGet p s a owner ha howner =>
    cases hnames
    obtain ⟨depth, hloads, -, hdepth⟩ := Argument.delivers_loads hargs 0
    have hwords : (s.accessor p).2.paramSlots + 1 ≤ depth := by
      rw [← hlength] at hdepth
      cases s with
      | supplier => exact hdepth
      | function => exact hdepth
    have hresult : (s.accessor p).2.returnType.slots = p.valueKind.words := by
      rw [← Descriptor.slots_eq_words p.kind_descriptor]
      cases s <;> rfl
    have hcall : (⟨.interface, true, owner, (s.accessor p).1, (s.accessor p).2⟩ :
        Callee).argumentWords ≤ depth := (Nat.add_comm 1 _).trans_le hwords
    refine (hloads.append (Delivers.invoke hcall)).completes rfl ?_
    show p.valueKind.words ≤ _ + (s.accessor p).2.returnType.slots
    rw [hresult]
    exact Nat.le_add_left _ _
  | mapNarrowed hc => exact ((delivers_emptyInstance l).append .cast).completes rfl le_rfl
  | mapEmpty => exact (delivers_emptyInstance l).completes rfl le_rfl

end

end Pattern

end ErasedBridges
