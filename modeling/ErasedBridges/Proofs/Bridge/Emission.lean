import ErasedBridges.Proofs.Bridge.Body

/-!
# What the patterns emit

Every body ends in the one exit of its pattern. `Emits` gives what stands before it, so that a fact
about all bodies takes one case a pattern.
-/

namespace ErasedBridges

namespace Supplied

def call : Supplied → Instruction
  | supplier => .invokeInterface "java/util/function/Supplier".toList "get".toList
      ⟨[], objectDescriptor⟩
  | function => .invokeInterface "java/util/function/Function".toList "apply".toList
      ⟨[objectDescriptor], objectDescriptor⟩

/-- All arguments are loaded as references if there are as many as the supplied value needs. -/
theorem instructions_of_length {s : Supplied} {args : List Argument}
    (h : s.parameterNames.length = args.length) :
    s.instructions args = .ok (args.map Argument.loadReference ++ [s.call]) := by
  cases s with
  | supplier =>
    obtain ⟨a, rfl⟩ := List.length_eq_one_iff.1 h.symm
    rfl
  | function =>
    obtain ⟨a, b, rfl⟩ := List.length_eq_two.1 h.symm
    rfl

theorem instructions_eq_ok {s : Supplied} {args : List Argument} {is : List Instruction}
    (h : s.instructions args = .ok is) (hargs : s.parameterNames.length = args.length) :
    is = args.map Argument.loadReference ++ [s.call] :=
  Except.ok.inj (h.symm.trans (instructions_of_length hargs))

end Supplied

namespace Pattern

theorem returnClass_eq_ok {returnType : Descriptor} {c : Text} :
    returnClass returnType = .ok c ↔ returnType.className? = some c := by
  rw [returnClass]
  cases hname : returnType.className? with
  | none =>
    constructor
    · intro h
      cases h
    · intro h
      cases h
  | some name => rw [Except.ok.injEq, Option.some.injEq]

def forwarding (l : Layout) (args : List Argument) : List Instruction :=
  if args.isEmpty then [] else forward l args

/-- What is handed on is among the arguments. -/
theorem forwarded_subset (shape : IfSomeShape) (args : List Argument) :
    shape.forwarded.filterMap (args[·]?) ⊆ args := by
  intro a ha
  obtain ⟨i, -, hi⟩ := List.mem_filterMap.1 ha
  exact List.mem_of_getElem? hi

/-- What a pattern emits for a method with these parameters and this return type: the instructions
before the exit, and the exit. -/
inductive Emits (l : Layout) (args : List Argument) (returnType : Descriptor) :
    Pattern → List Instruction → Instruction → Prop
  | throwNotPresent : Emits l args returnType .throwNotPresent
      [.invokeStatic l.missingValueOwner l.missingValue.name Layout.missingValueDescriptor] .throw
  | emptyOf {owner : FactoryOwner} {c : Text} (hc : returnType.className? = some c) :
    Emits l args returnType (.emptyOf owner)
      [.invoke ⟨.static, owner == .ofInterface, c, "empty".toList, ⟨[], returnType⟩⟩]
      returnReference
  | throwSupplied {s : Supplied} :
    Emits l args returnType (.throwSupplied s)
      (args.map Argument.loadReference ++ [s.call, .cast throwable]) .throw
  | returnArgument {a : Argument} (ha : args = [a]) :
    Emits l args returnType .returnArgument [a.load] returnReference
  | orGet {s : Supplied} {c : Text} (hc : returnType.className? = some c) :
    Emits l args returnType (.orGet s)
      (args.map Argument.loadReference ++ [s.call, .cast c]) returnReference
  | orElse {a : Argument} (ha : args = [a]) :
    Emits l args returnType .orElse [a.load] returnReference
  | orElseGet {s : Supplied} {c : Text} (hc : returnType.className? = some c) :
    Emits l args returnType (.orElseGet s)
      (args.map Argument.loadReference ++ [s.call, .cast c]) returnReference
  | filter {arity : Nat} {c : Text} (hc : returnType.className? = some c) :
    Emits l args returnType (.filter arity)
      (emptyInstance l :: if c = l.baseInterfaceName then [] else [.cast c]) returnReference
  | test {arity : Nat} : Emits l args returnType (.test arity) [.zero] (.ret (some .int))
  | ifSome {shape : IfSomeShape} :
    Emits l args returnType (.ifSome shape)
      (forwarding l (shape.forwarded.filterMap (args[·]?))) (.ret none)
  | primitiveOrElse {p : Primitive} {a : Argument} (ha : args = [a]) :
    Emits l args returnType (.primitiveOrElse p)
      [.load p.valueKind a.slot] (.ret (some p.valueKind))
  | primitiveOrElseGet {p : Primitive} {s : Supplied} {a : Argument} {owner : Text}
    (ha : args.head? = some a) (howner : a.type.className? = some owner) :
    Emits l args returnType (.primitiveOrElseGet p s)
      (args.map Argument.load ++ [.invokeInterface owner (s.accessor p).1 (s.accessor p).2])
      (.ret (some p.valueKind))
  | mapNarrowed {arity : Nat} {c : Text} (hc : returnType.className? = some c) :
    Emits l args returnType (.mapEmpty true arity) [emptyInstance l, .cast c] returnReference
  | mapEmpty {arity : Nat} :
    Emits l args returnType (.mapEmpty false arity) [emptyInstance l] returnReference

/-- A body with as many parameters as its pattern has names is what the pattern emits. -/
theorem exists_emits {l : Layout} {args : List Argument} {returnType : Descriptor}
    {pattern : Pattern} {is : List Instruction} {names : List Text}
    (hnames : pattern.parameterNames? = some names) (hlength : names.length = args.length)
    (h : pattern.instructions l args returnType = .ok is) :
    ∃ before exit, Emits l args returnType pattern before exit ∧ is = before ++ [exit] := by
  have hone (hn : names.length = 1) : ∃ a, args = [a] :=
    List.length_eq_one_iff.1 (hlength.symm.trans hn)
  cases pattern with
  | throwNotPresent =>
    cases h
    exact ⟨_, _, .throwNotPresent, rfl⟩
  | emptyOf owner =>
    obtain ⟨c, hc, he⟩ := bind_eq_ok.1 h
    cases he
    exact ⟨_, _, .emptyOf (returnClass_eq_ok.1 hc), rfl⟩
  | throwSupplied s =>
    cases hnames
    obtain ⟨supplied, hs, he⟩ := bind_eq_ok.1 h
    cases he
    rw [Supplied.instructions_eq_ok hs hlength]
    exact ⟨_, _, .throwSupplied, by simp⟩
  | returnArgument =>
    cases hnames
    obtain ⟨a, rfl⟩ := hone rfl
    cases h
    exact ⟨_, _, .returnArgument rfl, rfl⟩
  | orElse =>
    cases hnames
    obtain ⟨a, rfl⟩ := hone rfl
    cases h
    exact ⟨_, _, .orElse rfl, rfl⟩
  | orGet s =>
    cases hnames
    obtain ⟨supplied, hs, h⟩ := bind_eq_ok.1 h
    obtain ⟨c, hc, he⟩ := bind_eq_ok.1 h
    cases he
    rw [Supplied.instructions_eq_ok hs hlength]
    exact ⟨_, _, .orGet (returnClass_eq_ok.1 hc), by simp⟩
  | orElseGet s =>
    cases hnames
    obtain ⟨supplied, hs, h⟩ := bind_eq_ok.1 h
    obtain ⟨c, hc, he⟩ := bind_eq_ok.1 h
    cases he
    rw [Supplied.instructions_eq_ok hs hlength]
    exact ⟨_, _, .orElseGet (returnClass_eq_ok.1 hc), by simp⟩
  | filter arity =>
    obtain ⟨c, hc, he⟩ := bind_eq_ok.1 h
    cases he
    exact ⟨_, _, .filter (returnClass_eq_ok.1 hc), rfl⟩
  | test arity =>
    cases h
    exact ⟨_, _, .test, rfl⟩
  | ifSome shape =>
    cases h
    exact ⟨_, _, .ifSome, rfl⟩
  | primitiveOrElse p =>
    cases hnames
    obtain ⟨a, rfl⟩ := hone rfl
    cases h
    exact ⟨_, _, .primitiveOrElse rfl, rfl⟩
  | primitiveOrElseGet p s =>
    rw [instructions.eq_def] at h
    dsimp only at h
    split at h
    · next owner howner =>
      cases h
      obtain ⟨a, ha, hclass⟩ := Option.bind_eq_some_iff.1 howner
      exact ⟨_, _, .primitiveOrElseGet ha hclass, by simp⟩
    · cases h
  | mapEmpty narrowed arity =>
    cases narrowed with
    | false =>
      obtain ⟨narrow, hnarrow, he⟩ := bind_eq_ok.1 h
      cases hnarrow
      cases he
      exact ⟨_, _, .mapEmpty, rfl⟩
    | true =>
      obtain ⟨narrow, hnarrow, he⟩ := bind_eq_ok.1 h
      obtain ⟨c, hc, rfl⟩ := map_eq_ok.1 hnarrow
      cases he
      exact ⟨_, _, .mapNarrowed (returnClass_eq_ok.1 hc), rfl⟩

end Pattern

/-- The body of a bridge has the parameters that its pattern names, and ends in the pattern's exit
behind what the pattern emits for them. -/
theorem Declaration.exists_emits_of_mem_synthesize {t : Target} {pattern : Pattern}
    {d : Declaration} {block : List Bridge} (h : d.synthesize t pattern = .ok block) {b : Bridge}
    (hb : b ∈ block) :
    ∃ names thisGeneric signature before exit, pattern.parameterNames? = some names ∧
      names.length = b.descriptor.params.length ∧
      b.body = .of (bodyLocals t.layout thisGeneric names b.descriptor signature)
        (before ++ [exit]) ∧
      pattern.Emits t.layout (Argument.ofParams b.descriptor.params) b.descriptor.returnType before
        exit := by
  obtain ⟨variant, descriptor, signature, hbridge⟩ : ∃ variant descriptor signature,
      d.bridge t pattern variant descriptor signature = .ok b := by
    rcases exists_bridge_of_mem_synthesize h hb with
      ⟨-, p, descriptor, signature, -, -, -, hbridge⟩ | hbridge
    · exact ⟨_, _, _, hbridge⟩
    · exact ⟨_, _, _, hbridge⟩
  obtain ⟨body, hbody, rfl⟩ := bridge_eq_ok.1 hbridge
  obtain ⟨names, thisGeneric, is, hnames, hlength, -, his, rfl⟩ := body_eq_ok.1 hbody
  have hargs : names.length = (Argument.ofParams descriptor.params).length := by
    rw [hlength, Argument.length_ofParams]
  obtain ⟨before, exit, hemits, rfl⟩ := Pattern.exists_emits hnames hargs his
  exact ⟨names, thisGeneric, signature, before, exit, hnames, hlength, rfl, hemits⟩

end ErasedBridges
