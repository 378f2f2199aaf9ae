import ErasedBridges.Proofs.Bridge.Choice
import ErasedBridges.Proofs.Bridge.Emission

/-!
# What a body needs

A body reads parameters by their number and names classes that it takes from the types. A pattern
is only chosen for a declaration that has as many parameters as the pattern has names for, which
are as many as the body reads, and in most families it is chosen for the sake of the classes.
-/

namespace ErasedBridges

namespace Pattern

/-- The places of the parameters that a body reads by their number. -/
def places : Pattern → List Nat
  | throwSupplied s | orGet s | orElseGet s => List.range s.parameterNames.length
  | returnArgument | orElse | primitiveOrElse _ | primitiveOrElseGet _ _ => [0]
  | ifSome shape => shape.forwarded
  | throwNotPresent | emptyOf _ | filter _ | test _ | mapEmpty _ _ => []

/-- With so many parameters each of them has a name, and those that a body reads are there. -/
structure InRange (pattern : Pattern) (arity : Nat) : Prop where
  names : ∃ names, pattern.parameterNames? = some names ∧ names.length = arity
  places : ∀ i ∈ pattern.places, i < arity
  arguments : ∀ (l : Layout) (args : List Argument) (returnType : Descriptor),
    args.length = arity → pattern.instructions l args returnType ≠ .error .parameterCount

/-- There are classes where a body names them. -/
def Accepts (m : MethodDescriptor) : Pattern → Prop
  | emptyOf _ | orGet _ | orElseGet _ | filter _ | mapEmpty true _ =>
    m.returnType.className?.isSome = true
  | primitiveOrElseGet _ _ => (m.params.head?.bind Descriptor.className?).isSome = true
  | _ => True

end Pattern

/-! ### Bodies -/

namespace Pattern

theorem exists_returnClass_iff {returnType : Descriptor} :
    (∃ c, returnClass returnType = .ok c) ↔ returnType.className?.isSome = true := by
  simp only [returnClass_eq_ok, Option.isSome_iff_exists]

theorem returnClass_ne_parameterCount (returnType : Descriptor) :
    returnClass returnType ≠ .error .parameterCount := by
  rw [returnClass]
  split
  · exact ok_ne_error
  · exact nofun

variable {pattern : Pattern} {names : List Text}

theorem lt_length_of_mem_places (h : pattern.parameterNames? = some names) :
    ∀ i ∈ pattern.places, i < names.length := by
  cases pattern with
  | throwSupplied s | orGet s | orElseGet s =>
    cases h
    exact fun i => List.mem_range.1
  | returnArgument | orElse | primitiveOrElse p =>
    cases h
    exact List.forall_mem_singleton.2 Nat.one_pos
  | primitiveOrElseGet p s =>
    cases h
    refine List.forall_mem_singleton.2 ?_
    cases s <;> decide
  | ifSome shape =>
    cases h
    cases shape <;> decide
  | _ => exact List.forall_mem_nil _

theorem instructions_ne_parameterCount {l : Layout} {args : List Argument}
    {returnType : Descriptor} (h : pattern.parameterNames? = some names)
    (hlength : args.length = names.length) :
    pattern.instructions l args returnType ≠ .error .parameterCount := by
  have hreturn := returnClass_ne_parameterCount returnType
  cases pattern with
  | throwNotPresent | test arity | ifSome shape => exact ok_ne_error
  | emptyOf owner | filter arity => exact bind_ne_error hreturn fun c => ok_ne_error
  | throwSupplied s =>
    cases h
    rw [instructions, Supplied.instructions_of_length hlength.symm]
    exact ok_ne_error
  | returnArgument | orElse | primitiveOrElse p =>
    cases h
    obtain ⟨a, rfl⟩ := List.length_eq_one_iff.1 hlength
    exact ok_ne_error
  | orGet s | orElseGet s =>
    cases h
    rw [instructions, Supplied.instructions_of_length hlength.symm]
    exact bind_ne_error (x := .ok _) ok_ne_error fun supplied =>
      bind_ne_error hreturn fun c => ok_ne_error
  | primitiveOrElseGet p s =>
    rw [instructions]
    split
    · exact ok_ne_error
    · intro he
      cases he
  | mapEmpty narrowed arity =>
    cases narrowed with
    | false => exact ok_ne_error
    | true => exact bind_ne_error (map_ne_error hreturn) fun narrow => ok_ne_error

/-- With as many parameters as names no body misses one. -/
theorem inRange_of_names (h : pattern.parameterNames? = some names) :
    pattern.InRange names.length :=
  ⟨⟨names, h, rfl⟩, lt_length_of_mem_places h,
    fun _ _ _ hlength => instructions_ne_parameterCount h hlength⟩

theorem exists_instructions_iff {l : Layout} {m : MethodDescriptor}
    (h : pattern.parameterNames? = some names) (hlength : names.length = m.params.length) :
    (∃ is, pattern.instructions l (Argument.ofParams m.params) m.returnType = .ok is) ↔
      pattern.Accepts m := by
  rw [← Argument.length_ofParams] at hlength
  cases pattern with
  | throwNotPresent | test arity | ifSome shape => exact ⟨fun _ => trivial, fun _ => ⟨_, rfl⟩⟩
  | emptyOf owner | filter arity =>
    rw [Accepts, ← exists_returnClass_iff, instructions, exists_bind_iff]
    exact exists_congr fun c => and_iff_left ⟨_, rfl⟩
  | throwSupplied s =>
    cases h
    rw [instructions, Supplied.instructions_of_length hlength]
    exact ⟨fun _ => trivial, fun _ => ⟨_, rfl⟩⟩
  | returnArgument | orElse | primitiveOrElse p =>
    cases h
    obtain ⟨a, ha⟩ := List.length_eq_one_iff.1 hlength.symm
    rw [ha]
    exact ⟨fun _ => trivial, fun _ => ⟨_, rfl⟩⟩
  | orGet s | orElseGet s =>
    cases h
    rw [Accepts, ← exists_returnClass_iff, instructions, Supplied.instructions_of_length hlength]
    exact (exists_bind_iff (x := returnClass m.returnType)).trans
      (exists_congr fun c => and_iff_left ⟨_, rfl⟩)
  | primitiveOrElseGet p s =>
    have hhead : (Argument.ofParams m.params).head?.bind (·.type.className?) =
        m.params.head?.bind Descriptor.className? := by
      conv_rhs => rw [← Argument.types_ofParams m.params, List.head?_map, Option.bind_map]
      rfl
    rw [Accepts, instructions, hhead]
    cases m.params.head?.bind Descriptor.className? with
    | none => exact ⟨nofun, nofun⟩
    | some owner => exact ⟨fun _ => rfl, fun _ => ⟨_, rfl⟩⟩
  | mapEmpty narrowed arity =>
    cases narrowed with
    | false => exact ⟨fun _ => trivial, fun _ => ⟨_, rfl⟩⟩
    | true =>
      rw [Accepts, ← exists_returnClass_iff, instructions, if_pos rfl, exists_bind_iff]
      constructor
      · rintro ⟨narrow, hnarrow, -⟩
        obtain ⟨c, hc, -⟩ := map_eq_ok.1 hnarrow
        exact ⟨c, hc⟩
      · rintro ⟨c, hc⟩
        exact ⟨[.cast c], map_eq_ok.2 ⟨c, hc, rfl⟩, _, rfl⟩

end Pattern

/-! ### The choice -/

namespace Pattern

/-- What is supplied is cast to the return type, which must be a class for this. -/
def CastsSupplied (pattern : Pattern) : Prop := ∃ s, pattern = .orGet s ∨ pattern = .orElseGet s

/-- What the choice of the pattern has found out: all but the cast of what is supplied. -/
structure Chosen (m : MethodDescriptor) (pattern : Pattern) : Prop where
  names : ∃ names, pattern.parameterNames? = some names ∧ names.length = m.params.length
  accepts : ¬ pattern.CastsSupplied → pattern.Accepts m

theorem exists_firstNames? {names : List Text} {arity : Nat} (h : arity ≤ names.length) :
    ∃ first, firstNames? names arity = some first ∧ first.length = arity :=
  ⟨names.take arity, if_pos h, List.length_take_of_le h⟩

end Pattern

theorem Supplied.length_of_ofArity? {n : Nat} {s : Supplied} (h : ofArity? n = some s) :
    s.parameterNames.length = n := by
  rw [ofArity?.eq_def] at h
  split at h
  · cases h
    rfl
  · cases h
    rfl
  · cases h

theorem IfSomeShape.length_of_of? {rest : Text} {params : List Descriptor} {shape : IfSomeShape}
    (h : of? rest params = some shape) : shape.parameterNames.length = params.length := by
  rw [(fits_iff.1 (List.find?_some h)).length_eq]
  cases shape <;> rfl

namespace Family

def IsNullary (family : Family) : Prop := family = absentAccessor ∨ family = emptyConversion

theorem not_isNullary_of_ofAffix? {name : Text} {family : Family}
    (h : ofAffix? name = some family) : ¬ family.IsNullary := by
  rw [ofAffix?] at h
  split at h
  · cases h
    exact not_or.2 ⟨nofun, nofun⟩
  · split at h
    · cases h
      exact not_or.2 ⟨nofun, nofun⟩
    · split at h
      · cases h
        exact not_or.2 ⟨nofun, nofun⟩
      · split at h
        · cases h
          exact not_or.2 ⟨nofun, nofun⟩
        · cases h

theorem arity_of_of? {name : Text} {arity : Nat} {family : Family}
    (h : of? name arity = some family) (hnullary : family.IsNullary) : arity = 0 := by
  by_contra harity
  simp only [of?, harity, false_and, if_false] at h
  split_ifs at h
  case neg => exact not_isNullary_of_ofAffix? h hnullary
  all_goals
    cases h
    rcases hnullary with he | he <;> cases he

theorem chosen_of_pattern? {family : Family} {name : Text} {d : MethodDescriptor}
    {pattern : Pattern} (hfamily : of? name d.params.length = some family)
    (h : family.pattern? name d = some pattern) : pattern.Chosen d := by
  cases family with
  | absentAccessor =>
    cases h
    exact ⟨⟨[], rfl, (arity_of_of? hfamily (Or.inl rfl)).symm⟩, fun _ => trivial⟩
  | emptyConversion =>
    rw [pattern?] at h
    split at h
    · next hclass =>
      cases h
      exact ⟨⟨[], rfl, (arity_of_of? hfamily (Or.inr rfl)).symm⟩, fun _ => hclass⟩
    · cases h
  | throwingAccessor =>
    obtain ⟨s, hs, rfl⟩ := Option.map_eq_some_iff.1 h
    exact ⟨⟨_, rfl, Supplied.length_of_ofArity? hs⟩, fun _ => trivial⟩
  | suppliedAlternative =>
    obtain ⟨s, hs, rfl⟩ := Option.map_eq_some_iff.1 h
    exact ⟨⟨_, rfl, Supplied.length_of_ofArity? hs⟩, fun hnot => absurd ⟨s, Or.inl rfl⟩ hnot⟩
  | suppliedDefault =>
    obtain ⟨s, hs, rfl⟩ := Option.map_eq_some_iff.1 h
    exact ⟨⟨_, rfl, Supplied.length_of_ofArity? hs⟩, fun hnot => absurd ⟨s, Or.inr rfl⟩ hnot⟩
  | alternative =>
    rw [pattern?] at h
    split at h
    · next harity =>
      cases h
      exact ⟨⟨_, rfl, harity.symm⟩, fun _ => trivial⟩
    · cases h
  | defaultValue =>
    rw [pattern?] at h
    split at h
    · next hdefault =>
      cases h
      exact ⟨⟨_, rfl, hdefault.1.symm⟩, fun _ => trivial⟩
    · cases h
  | filter =>
    rw [pattern?] at h
    split at h
    · next hfilter =>
      cases h
      exact ⟨Pattern.exists_firstNames? hfilter.1, fun _ => hfilter.2⟩
    · cases h
  | predicateTest =>
    rw [pattern?] at h
    split at h
    · next htest =>
      cases h
      exact ⟨Pattern.exists_firstNames? htest.2, fun _ => trivial⟩
    · cases h
  | ifSome rest =>
    obtain ⟨shape, hshape, rfl⟩ := Option.map_eq_some_iff.1 h
    exact ⟨⟨_, rfl, IfSomeShape.length_of_of? hshape⟩, fun _ => trivial⟩
  | primitiveDefault p =>
    rw [pattern?] at h
    split at h
    · next hparams =>
      cases h
      exact ⟨⟨_, rfl, (congrArg List.length hparams).symm⟩, fun _ => trivial⟩
    · cases h
  | primitiveSuppliedDefault p =>
    rw [pattern?] at h
    split at h
    · next hclass =>
      obtain ⟨s, hs, rfl⟩ := Option.map_eq_some_iff.1 h
      exact ⟨⟨_, rfl, Supplied.length_of_ofArity? hs⟩, fun _ => hclass⟩
    · cases h
  | mapping =>
    rw [pattern?] at h
    split at h
    · next hmapping =>
      cases h
      refine ⟨Pattern.exists_firstNames? hmapping.2.1, fun _ => ?_⟩
      cases Text.contains name "To".toList with
      | false => trivial
      | true => exact hmapping.2.2
    · cases h

end Family

namespace Declaration

theorem chosen_of_classify {l : Layout} {d : Declaration} {pattern : Pattern}
    (h : d.classify l = .ok (.bridge pattern)) : pattern.Chosen d.descriptor := by
  obtain ⟨family, hfamily, hpattern⟩ := exists_family_of_classify h
  exact Family.chosen_of_pattern? hfamily hpattern

end Declaration

end ErasedBridges
