import ErasedBridges.Proofs.Body.Kinds
import ErasedBridges.Proofs.Bridge.Choice
import ErasedBridges.Proofs.Bridge.Emission

/-!
# Which bodies fit their descriptors

A pattern is chosen by the name of a method and the number of its parameters, and only in some
families by their types. `Suits` is what the choice leaves open: a body fits the descriptor of its
bridge if it holds, and only then.
-/

namespace ErasedBridges

open Instruction

namespace Pattern

/-- What the body of the pattern takes for granted beside what its choice ensures. -/
def Suits (m : MethodDescriptor) : Pattern → Prop
  | throwNotPresent | emptyOf _ | filter _ | mapEmpty _ _ => True
  | throwSupplied _ | orGet _ | orElse | orElseGet _ => AllOfKind .reference m.params
  | returnArgument =>
    AllOfKind .reference m.params ∧ ValueKind.of? m.returnType = some .reference
  | test _ => ValueKind.of? m.returnType = some .int
  | ifSome _ => ValueKind.of? m.returnType = none
  | primitiveOrElse p =>
    AllOfKind p.valueKind m.params ∧ ValueKind.of? m.returnType = some p.valueKind
  | primitiveOrElseGet p _ =>
    AllOfKind .reference m.params ∧ ValueKind.of? m.returnType = some p.valueKind

end Pattern

/-! ### Runs -/

section

variable {params : List Descriptor} {args : List Argument}

theorem Instruction.movesKinds_static {onInterface : Bool} {owner name : Text}
    {returnType : Descriptor} (h : ValueKind.of? returnType = some .reference)
    (s : List ValueKind) :
    MovesKinds params (.invoke ⟨.static, onInterface, owner, name, ⟨[], returnType⟩⟩) s
      (.reference :: s) := by
  refine ⟨[], s, rfl, rfl, ?_⟩
  rw [h]
  rfl

theorem Instruction.movesKinds_cast {name : Text} (s : List ValueKind) :
    MovesKinds params (.cast name) (.reference :: s) (.reference :: s) := ⟨s, rfl, rfl⟩

theorem Argument.loadedKinds_eq_replicate
    (h : ∀ a ∈ args, ValueKind.of? a.type = some .reference) :
    args.map loadedKind = List.replicate args.length .reference := by
  rw [List.eq_replicate_iff, List.length_map]
  refine ⟨rfl, ?_⟩
  intro k hk
  obtain ⟨a, ha, rfl⟩ := List.mem_map.1 hk
  rw [loadedKind, h a ha]
  rfl

/-- Loading the parameters of a method that are references, as values of their types. -/
theorem Argument.runs_loads_references (hsub : args ⊆ ofParams params)
    (h : ∀ a ∈ args, ValueKind.of? a.type = some .reference) (s : List ValueKind) :
    Runs (MovesKinds params) (args.map load) s
      (List.replicate args.length .reference ++ s) := by
  rw [runs_loads, loadedKinds_eq_replicate h, List.reverse_replicate]
  refine ⟨fun a ha => ?_, rfl⟩
  rw [loadedKind, h a ha]
  exact kindAt_ofParams (hsub ha) (h a ha)

theorem Supplied.runs_kinds (hsub : args ⊆ Argument.ofParams params)
    (h : ∀ a ∈ args, ValueKind.of? a.type = some .reference) (supplied : Supplied)
    (hlength : supplied.parameterNames.length = args.length) (name : Text) :
    Runs (MovesKinds params) (args.map Argument.loadReference ++ [supplied.call, .cast name]) []
      [.reference] := by
  have hloads : args.map Argument.loadReference = args.map Argument.load :=
    List.map_congr_left fun a ha => Argument.loadReference_eq_load (h a ha)
  have hcall : MovesKinds params supplied.call
      (List.replicate supplied.parameterNames.length .reference) [.reference] := by
    cases supplied with
    | supplier => exact ⟨[], [], rfl, rfl, rfl⟩
    | function => exact ⟨[.reference], [], rfl, rfl, rfl⟩
  have hruns := Argument.runs_loads_references hsub h []
  rw [List.append_nil, ← hlength] at hruns
  rw [hloads]
  exact runs_append.2 ⟨_, hruns, .cons hcall (.cons (movesKinds_cast []) (.nil _))⟩

/-- An accessor of primitive values is called on references. -/
theorem Supplied.movesKinds_accessor (p : Primitive) (supplied : Supplied) (owner : Text) :
    MovesKinds params (.invokeInterface owner (supplied.accessor p).1 (supplied.accessor p).2)
      (List.replicate supplied.parameterNames.length .reference) [p.valueKind] := by
  have hresult : [p.valueKind] = (ValueKind.of? p.descriptor).toList ++ [] := by
    rw [p.kind_descriptor]
    rfl
  cases supplied with
  | supplier => exact ⟨[], [], rfl, rfl, hresult⟩
  | function => exact ⟨[.reference], [], rfl, rfl, hresult⟩

/-- It cannot be called on anything else. -/
theorem Supplied.references_of_accessor {p : Primitive} {supplied : Supplied} {owner : Text}
    {s : List ValueKind} (hlength : supplied.parameterNames.length = args.length)
    (h : MovesKinds params (.invokeInterface owner (supplied.accessor p).1 (supplied.accessor p).2)
      (args.map Argument.loadedKind).reverse s) :
    ∀ a ∈ args, a.loadedKind = .reference := by
  obtain ⟨kinds, rest, hcallee, hstack, -⟩ := h
  have hinjective : Function.Injective (List.map (some : ValueKind → Option ValueKind)) :=
    List.map_injective_iff.2 (Option.some_injective _)
  cases supplied with
  | supplier =>
    obtain ⟨a, rfl⟩ := List.length_eq_one_iff.1 hlength.symm
    obtain rfl : kinds = [] := hinjective hcallee.symm
    exact List.forall_mem_singleton.2 (List.cons.inj hstack).1
  | function =>
    obtain ⟨a, b, rfl⟩ := List.length_eq_two.1 hlength.symm
    obtain rfl : kinds = [.reference] := hinjective hcallee.symm
    obtain ⟨hb, hrest⟩ := List.cons.inj hstack
    exact List.forall_mem_cons.2 ⟨(List.cons.inj hrest).1, List.forall_mem_singleton.2 hb⟩

/-- The call of `ifNone` finds what it takes. -/
theorem Pattern.runs_forwarding (l : Layout) (hsub : args ⊆ Argument.ofParams params)
    (h : ∀ a ∈ args, ValueKind.of? a.type = some .reference) :
    Runs (MovesKinds params) (forwarding l args) [] [] := by
  rw [forwarding]
  split_ifs
  · exact .nil []
  · have hreceiver : MovesKinds params (.load .reference 0) [] [.reference] :=
      ⟨Or.inl ⟨rfl, rfl⟩, rfl⟩
    have hloads := Argument.runs_loads_references hsub h [.reference]
    refine .cons hreceiver (runs_append.2 ⟨_, hloads, runs_singleton.2 ?_⟩)
    refine ⟨List.replicate args.length .reference, [], ?_, ?_, rfl⟩
    · rw [List.map_map, List.map_replicate]
      exact List.eq_replicate_iff.2 ⟨by simp, by simpa using h⟩
    · rw [List.reverse_replicate]
      rfl

end

/-! ### Bodies -/

namespace Pattern.Emits

variable {l : Layout} {m : MethodDescriptor} {pattern : Pattern} {before : List Instruction}
  {exit : Instruction} {names : List Text}

/-- The body fits if the choice of its pattern and the types that it was left with do. -/
theorem typed (h : Emits l (Argument.ofParams m.params) m.returnType pattern before exit)
    (hnames : pattern.parameterNames? = some names) (hlength : names.length = m.params.length)
    (hensures : pattern.Ensures m) (hsuits : pattern.Suits m) : Typed m (before ++ [exit]) := by
  rw [← Argument.length_ofParams m.params] at hlength
  have hsub := List.Subset.refl (Argument.ofParams m.params)
  have hempty : MovesKinds m.params (emptyInstance l) [] [.reference] :=
    movesKinds_static (Descriptor.kind_object _) []
  have hload {a : Argument} (ha : Argument.ofParams m.params = [a]) {k : ValueKind}
      (hk : AllOfKind k m.params) : MovesKinds m.params (.load k a.slot) [] [k] := by
    have hmem : a ∈ Argument.ofParams m.params := by
      rw [ha]
      exact List.mem_cons_self
    exact ⟨Argument.kindAt_ofParams hmem (allOfKind_ofParams.1 hk a hmem), rfl⟩
  have hloadTyped {a : Argument} (ha : Argument.ofParams m.params = [a])
      (hk : AllOfKind .reference m.params) : MovesKinds m.params a.load [] [.reference] := by
    have hmem : a ∈ Argument.ofParams m.params := by
      rw [ha]
      exact List.mem_cons_self
    rw [← Argument.loadReference_eq_load (allOfKind_ofParams.1 hk a hmem)]
    exact hload ha hk
  rw [typed_append]
  cases h with
  | throwNotPresent =>
    exact ⟨_, runs_singleton.2 (movesKinds_static (Descriptor.kind_object _) []), rfl⟩
  | emptyOf hc =>
    have hkind := Descriptor.kind_of_className? hc
    exact ⟨_, runs_singleton.2 (movesKinds_static hkind []), leaves_ret hkind []⟩
  | @throwSupplied s =>
    cases hnames
    exact ⟨_, s.runs_kinds hsub (allOfKind_ofParams.1 hsuits) hlength _, rfl⟩
  | returnArgument ha =>
    exact ⟨_, runs_singleton.2 (hloadTyped ha hsuits.1), leaves_ret hsuits.2 []⟩
  | orElse ha => exact ⟨_, runs_singleton.2 (hloadTyped ha hsuits), leaves_ret hensures []⟩
  | @orGet s c hc | @orElseGet s c hc =>
    cases hnames
    exact ⟨_, s.runs_kinds hsub (allOfKind_ofParams.1 hsuits) hlength _,
      leaves_ret (Descriptor.kind_of_className? hc) []⟩
  | @filter arity c hc =>
    refine ⟨[.reference], .cons hempty ?_, leaves_ret (Descriptor.kind_of_className? hc) []⟩
    split_ifs
    · exact .nil _
    · exact runs_singleton.2 (movesKinds_cast [])
  | test =>
    exact ⟨[.int], runs_singleton.2 rfl, leaves_ret hsuits []⟩
  | @ifSome shape =>
    have hforwarded := forwarded_subset shape (Argument.ofParams m.params)
    have hreferences := allOfKind_ofParams.1 hensures
    refine ⟨[], runs_forwarding l hforwarded fun a ha => hreferences a (hforwarded ha), ?_⟩
    exact ⟨hsuits.symm, nofun⟩
  | primitiveOrElse ha =>
    exact ⟨_, runs_singleton.2 (hload ha hsuits.1), leaves_ret hsuits.2 []⟩
  | @primitiveOrElseGet p s a owner ha howner =>
    cases hnames
    have hloads := Argument.runs_loads_references hsub (allOfKind_ofParams.1 hsuits.1) []
    rw [List.append_nil, ← hlength] at hloads
    have hcall : MovesKinds m.params _ _ [p.valueKind] := s.movesKinds_accessor p owner
    exact ⟨[p.valueKind], runs_append.2 ⟨_, hloads, runs_singleton.2 hcall⟩,
      leaves_ret hsuits.2 []⟩
  | mapNarrowed hc =>
    exact ⟨_, .cons hempty (runs_singleton.2 (movesKinds_cast [])),
      leaves_ret (Descriptor.kind_of_className? hc) []⟩
  | mapEmpty => exact ⟨_, runs_singleton.2 hempty, leaves_ret hensures []⟩

/-- Nothing else fits, if every parameter has slots of its own. -/
theorem suits (h : Emits l (Argument.ofParams m.params) m.returnType pattern before exit)
    (hnames : pattern.parameterNames? = some names) (hlength : names.length = m.params.length)
    (hparams : ∀ d ∈ m.params, d.isVoid = false) (htyped : Typed m (before ++ [exit])) :
    pattern.Suits m := by
  rw [← Argument.length_ofParams m.params] at hlength
  obtain ⟨s, hruns, hleaves⟩ := typed_append.1 htyped
  have hloaded {k : ValueKind} (hmem : ∀ a ∈ Argument.ofParams m.params, .load k a.slot ∈ before) :
      AllOfKind k m.params :=
    allOfKind_ofParams.2 fun a ha =>
      Argument.kind_of_kindAt hparams ha (kindAt_of_mem hruns (hmem a ha))
  have hone {a : Argument} (ha : Argument.ofParams m.params = [a]) {P : Argument → Prop}
      (hP : P a) : ∀ a ∈ Argument.ofParams m.params, P a := by
    rw [ha]
    exact List.forall_mem_singleton.2 hP
  have hreference {a : Argument} (ha : Argument.ofParams m.params = [a])
      (hruns : Runs (MovesKinds m.params) [a.load] [] s) (hs : s.head? = some .reference) :
      AllOfKind .reference m.params := by
    obtain ⟨hkind, rfl⟩ := runs_singleton.1 hruns
    have hloadedKind : a.loadedKind = .reference := Option.some.inj hs
    refine allOfKind_ofParams.2 (hone ha ?_)
    refine Argument.kind_of_kindAt hparams (by simp [ha]) ?_
    rw [← hloadedKind]
    exact hkind
  cases h with
  | throwNotPresent | emptyOf _ | filter _ | mapNarrowed _ | mapEmpty => trivial
  | throwSupplied | orGet _ | orElseGet _ =>
    refine hloaded fun a ha => ?_
    exact List.mem_append_left _ (List.mem_map_of_mem (f := Argument.loadReference) ha)
  | returnArgument ha =>
    exact ⟨hreference ha hruns (hleaves.2 .reference rfl), hleaves.1.symm⟩
  | orElse ha => exact hreference ha hruns (hleaves.2 .reference rfl)
  | test => exact hleaves.1.symm
  | ifSome => exact hleaves.1.symm
  | primitiveOrElse ha =>
    exact ⟨hloaded (hone ha List.mem_cons_self), hleaves.1.symm⟩
  | @primitiveOrElseGet p supplied a owner ha howner =>
    cases hnames
    refine ⟨allOfKind_ofParams.2 fun a ha => ?_, hleaves.1.symm⟩
    obtain ⟨s', hloads, hcall⟩ := runs_append.1 hruns
    obtain ⟨hkinds, rfl⟩ := Argument.runs_loads.1 hloads
    rw [List.append_nil] at hcall
    have hreferences := supplied.references_of_accessor hlength (runs_singleton.1 hcall)
    have hkind := hkinds a ha
    rw [hreferences a ha] at hkind
    exact Argument.kind_of_kindAt hparams ha hkind

end Pattern.Emits

namespace Declaration

/-- A bridge of the pattern that was chosen for its declaration has a body that fits its descriptor
if the types that the choice leaves open suit the pattern. It has no such body otherwise, provided
that no parameter is `V`. -/
theorem typed_iff_suits {t : Target} {d : Declaration} {pattern : Pattern} {block : List Bridge}
    (hclass : d.classify t.layout = .ok (.bridge pattern))
    (h : d.synthesize t pattern = .ok block) {b : Bridge} (hb : b ∈ block) :
    (pattern.Suits b.descriptor → Typed b.descriptor b.body.instructions) ∧
      ((∀ type ∈ b.descriptor.params, type.isVoid = false) →
        Typed b.descriptor b.body.instructions → pattern.Suits b.descriptor) := by
  have hensures := ensures_of_mem_synthesize (ensures_of_classify hclass) h hb
  obtain ⟨names, _, _, before, exit, hnames, hlength, hbody, hemits⟩ :=
    exists_emits_of_mem_synthesize h hb
  rw [hbody]
  exact ⟨hemits.typed hnames hlength hensures, hemits.suits hnames hlength⟩

/-- A method of the interface for `long` that takes a value of the type and gives one back. -/
def longDeclaration (name : Text) : Declaration :=
  ⟨.specialized .long, ["abstract".toList], name, ⟨[.ofBase .long], .ofBase .long⟩, none, none⟩

def longBridge (name parameter : Text) (instructions : List Instruction) (throws : List Text) :
    Bridge where
  flags := ["synthetic".toList]
  name := name
  descriptor := ⟨[.ofBase .long], .ofBase .long⟩
  body := .of
    [⟨"this".toList, .object Layout.default.emptyClassName,
        some ⟨Layout.default.emptyThisGeneric⟩⟩,
      ⟨parameter, .ofBase .long, none⟩]
    instructions
  line := 1
  throws := throws
  signature := none
  quote := none
  variant := none
  covariant := false

def longOrElseBridge : Bridge :=
  longBridge "longOrElse".toList "value".toList [.load .long 1, .ret (some .long)] []

theorem typed_longOrElse :
    (longDeclaration "longOrElse".toList).classify .default =
        .ok (.bridge (.primitiveOrElse .long)) ∧
      (longDeclaration "longOrElse".toList).synthesize ⟨.default, 1⟩ (.primitiveOrElse .long) =
        .ok [longOrElseBridge] ∧
      (Pattern.primitiveOrElse .long).Suits longOrElseBridge.descriptor ∧
      (∀ type ∈ longOrElseBridge.descriptor.params, type.isVoid = false) ∧
      Typed longOrElseBridge.descriptor longOrElseBridge.body.instructions := by
  have hclass : (longDeclaration "longOrElse".toList).classify .default =
      .ok (.bridge (.primitiveOrElse .long)) := by decide +kernel
  have hbridges : (longDeclaration "longOrElse".toList).synthesize ⟨.default, 1⟩
      (.primitiveOrElse .long) = .ok [longOrElseBridge] := by decide +kernel
  have hparams : ∀ type ∈ longOrElseBridge.descriptor.params, type.isVoid = false := by decide
  obtain ⟨hfits, honly⟩ := typed_iff_suits (t := ⟨.default, 1⟩) hclass hbridges List.mem_cons_self
  have hsuits : (Pattern.primitiveOrElse .long).Suits longOrElseBridge.descriptor :=
    ⟨List.forall_mem_singleton.2 rfl, rfl⟩
  have htyped := hfits hsuits
  exact ⟨hclass, hbridges, honly hparams htyped, hparams, htyped⟩

def longOrElseThrowBridge : Bridge :=
  longBridge "longOrElseThrow".toList "supplier".toList
    [.load .reference 1, Supplied.supplier.call, .cast throwable, .throw] [throwable]

/-- The supplier of an exception is not looked at, so a `long` is taken for one. -/
theorem not_typed_longOrElseThrow :
    (longDeclaration "longOrElseThrow".toList).classify .default =
        .ok (.bridge (.throwSupplied .supplier)) ∧
      (longDeclaration "longOrElseThrow".toList).synthesize ⟨.default, 1⟩
        (.throwSupplied .supplier) = .ok [longOrElseThrowBridge] ∧
      ¬ Typed longOrElseThrowBridge.descriptor longOrElseThrowBridge.body.instructions := by
  refine ⟨by decide +kernel, by decide +kernel, ?_⟩
  rintro ⟨before, exit, s, he, hruns, -⟩
  obtain ⟨rfl, rfl⟩ := List.append_singleton_inj.1
    (show [.load .reference 1, Supplied.supplier.call, .cast throwable] ++ [.throw] =
      before ++ [exit] from he)
  rcases kindAt_of_mem hruns List.mem_cons_self with ⟨hzero, -⟩ | ⟨i, type, htype, -, hkind⟩
  · cases hzero
  · obtain rfl : Descriptor.ofBase .long = type := by
      have hmem := List.mem_of_getElem? htype
      exact (List.mem_singleton.1 hmem).symm
    cases hkind

end Declaration

end ErasedBridges
