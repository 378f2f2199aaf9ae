import ErasedBridges.Proofs.Body.Layout
import ErasedBridges.Proofs.Bridge.Emission
import ErasedBridges.Proofs.Descriptor.Word
import ErasedBridges.Proofs.Library.Layout

/-!
# The instructions of the patterns

Whatever the pattern, the instructions of a body are made of words and their number is bounded, if
the layout has no blanks and the types in question are words that do not name the empty class.
-/

namespace ErasedBridges

open Text

/-! ### Names -/

namespace Descriptor

/-- A word that is not an object type without a class name. -/
structure Named (d : Descriptor) : Prop where
  isWord : IsWord d.text
  className_ne : d.className? ≠ some []

theorem forall_mem_of_className? {P : Char → Prop} {d : Descriptor} (hd : ∀ c ∈ d.text, P c)
    {name : Text} (h : d.className? = some name) : ∀ c ∈ name, P c := by
  rw [className?] at h
  split at h
  · next s hs =>
    obtain ⟨inner, hinner, rfl⟩ := Option.map_eq_some_iff.1 h
    have hs' : ∀ c ∈ s, P c := (List.forall_mem_cons.1 (hs ▸ hd)).2
    rw [dropEnd?_eq_some.1 hinner] at hs'
    exact fun c hc => hs' c (List.mem_append_left _ ((List.takeWhile_prefix _).subset hc))
  · cases h

theorem Named.isWord_className? {d : Descriptor} (hd : d.Named) {name : Text}
    (h : d.className? = some name) : IsWord name := by
  refine ⟨?_, forall_mem_of_className? hd.isWord.2 h⟩
  rintro rfl
  exact hd.className_ne h

end Descriptor

namespace Primitive

theorem isWord_descriptor (p : Primitive) : IsWord p.descriptor.text := by
  cases p <;> decide

theorem named_boxedDescriptor (p : Primitive) : p.boxedDescriptor.Named := by
  cases p <;> exact ⟨by decide, by decide⟩

end Primitive

namespace Pattern

theorem isWord_of_parameterNames? {pattern : Pattern} {names : List Text}
    (h : pattern.parameterNames? = some names) : names.length ≤ 4 ∧ ∀ n ∈ names, IsWord n := by
  have hfirst {all : List Text} {arity : Nat} (hall : all.length ≤ 4 ∧ ∀ n ∈ all, IsWord n)
      (h : firstNames? all arity = some names) : names.length ≤ 4 ∧ ∀ n ∈ names, IsWord n := by
    rw [firstNames?] at h
    split at h
    · cases h
      exact ⟨(List.length_take_le' _ _).trans hall.1, fun n hn => hall.2 n (List.mem_of_mem_take hn)⟩
    · cases h
  have hsupplied (s : Supplied) :
      s.parameterNames.length ≤ 4 ∧ ∀ n ∈ s.parameterNames, IsWord n := by
    cases s <;> decide
  cases pattern with
  | throwNotPresent | emptyOf _ | returnArgument | orElse | primitiveOrElse _ =>
    cases h
    decide
  | throwSupplied s | orGet s | orElseGet s | primitiveOrElseGet _ s =>
    cases h
    exact hsupplied s
  | filter arity | test arity | mapEmpty _ arity => exact hfirst (by decide) h
  | ifSome shape =>
    cases h
    cases shape <;> decide

theorem isWord_of_mem_throws (pattern : Pattern) : ∀ w ∈ pattern.throws, IsWord w := by
  cases pattern with
  | throwSupplied s => exact List.forall_mem_singleton.2 (by decide)
  | _ => exact List.forall_mem_nil _

end Pattern

/-! ### Instructions -/

namespace Instruction

/-- Instructions made of words, and no more of them than `n`. -/
structure Fits (n : Nat) (is : List Instruction) : Prop where
  hasWords : ∀ i ∈ is, i.HasWords
  length_le : is.length ≤ n

theorem Fits.append {m n : Nat} {is js : List Instruction} (hi : Fits m is) (hj : Fits n js) :
    Fits (m + n) (is ++ js) := by
  refine ⟨List.forall_mem_append.2 ⟨hi.hasWords, hj.hasWords⟩, ?_⟩
  rw [List.length_append]
  exact Nat.add_le_add hi.length_le hj.length_le

theorem Fits.mono {m n : Nat} {is : List Instruction} (h : Fits m is) (hle : m ≤ n) : Fits n is :=
  ⟨h.hasWords, h.length_le.trans hle⟩

theorem fits_nil (n : Nat) : Fits n [] := ⟨List.forall_mem_nil _, Nat.zero_le n⟩

theorem Fits.cons {n : Nat} {i : Instruction} {is : List Instruction} (hi : i.HasWords)
    (his : Fits n is) : Fits (n + 1) (i :: is) :=
  ⟨List.forall_mem_cons.2 ⟨hi, his.hasWords⟩, Nat.succ_le_succ his.length_le⟩

theorem fits_loads (args : List Argument) : Fits args.length (args.map Argument.load) := by
  refine ⟨List.forall_mem_map.2 fun a _ => trivial, ?_⟩
  rw [List.length_map]

theorem hasWords_invoke (kind : InvokeKind) (onInterface : Bool) {owner name : Text}
    {params : List Descriptor} {returnType : Descriptor} (howner : BlankFree owner)
    (hname : BlankFree name) (hparams : ∀ d ∈ params, IsWord d.text)
    (hreturn : IsWord returnType.text) :
    (invoke ⟨kind, onInterface, owner, name, ⟨params, returnType⟩⟩).HasWords :=
  ⟨howner, hname, MethodDescriptor.forall_mem_text (fun _ => id) hparams hreturn⟩

end Instruction

open Instruction

theorem Supplied.hasWords_call (s : Supplied) : s.call.HasWords := by
  have hobject : IsWord objectDescriptor.text := by
    decide
  cases s with
  | supplier => exact hasWords_invoke _ _ (by decide) (by decide) (List.forall_mem_nil _) hobject
  | function =>
    exact hasWords_invoke _ _ (by decide) (by decide) (List.forall_mem_singleton.2 hobject) hobject

theorem Supplied.fits_cast (s : Supplied) (args : List Argument) {name : Text} (h : IsWord name) :
    Fits (args.length + 2) (args.map Argument.loadReference ++ [s.call, .cast name]) := by
  refine Fits.append ⟨List.forall_mem_map.2 fun a _ => trivial, ?_⟩
    (.cons s.hasWords_call (.cons h (fits_nil 0)))
  rw [List.length_map]

theorem Supplied.isWord_accessor (s : Supplied) (p : Primitive) :
    BlankFree (s.accessor p).1 ∧ (∀ d ∈ (s.accessor p).2.params, IsWord d.text) ∧
      (s.accessor p).2.returnType = p.descriptor := by
  cases s with
  | supplier => cases p <;> decide
  | function => cases p <;> decide

namespace Pattern

section

variable {l : Layout} (hl : l.BlankFree) {args : List Argument}
  (hargs : ∀ a ∈ args, IsWord a.type.text)

include hl

theorem hasWords_emptyInstance : (emptyInstance l).HasWords :=
  hasWords_invoke _ _ (hl.qualify (hl _ (by simp [Layout.texts]))) (hl _ (by simp [Layout.texts]))
    (List.forall_mem_nil _) (Descriptor.isWord_object hl.baseInterfaceName)

include hargs in
theorem fits_forward : Fits (args.length + 2) (forward l args) := by
  refine Fits.cons trivial ((fits_loads args).append (Fits.cons ?_ (fits_nil 0)))
  exact hasWords_invoke _ _ hl.emptyClassName (by decide) (List.forall_mem_map.2 hargs) (by decide)

include hargs in
/-- No pattern has more than five instructions beside the loads of its arguments. -/
theorem Emits.fits {returnType : Descriptor} (hreturn : returnType.Named) {pattern : Pattern}
    {before : List Instruction} {exit : Instruction}
    (h : Emits l args returnType pattern before exit) :
    Fits (args.length + 5) (before ++ [exit]) := by
  have hexit : exit.HasWords := by
    cases h <;> exact trivial
  have hname {c : Text} (hc : returnType.className? = some c) : IsWord c :=
    hreturn.isWord_className? hc
  have hempty (n : Nat) {narrow : List Instruction} (hnarrow : Fits n narrow) :
      Fits (n + 1) (emptyInstance l :: narrow) := .cons (hasWords_emptyInstance hl) hnarrow
  have hbefore : Fits (args.length + 4) before := by
    cases h with
    | throwNotPresent =>
      refine .cons ?_ (fits_nil _)
      exact hasWords_invoke _ _ (hl.qualify (hl _ (by simp [Layout.texts])))
        (hl _ (by simp [Layout.texts])) (List.forall_mem_nil _) (by decide)
    | emptyOf hc =>
      refine .cons ?_ (fits_nil _)
      exact hasWords_invoke _ _ (hname hc).2 (by decide) (List.forall_mem_nil _) hreturn.isWord
    | @throwSupplied s =>
      exact (s.fits_cast args (show IsWord throwable by decide)).mono (by omega)
    | returnArgument _ | orElse _ | primitiveOrElse _ => exact .cons trivial (fits_nil _)
    | @orGet s c hc | @orElseGet s c hc => exact (s.fits_cast args (hname hc)).mono (by omega)
    | @filter arity c hc =>
      refine hempty _ ?_
      split_ifs
      · exact fits_nil _
      · exact .cons (hname hc) (fits_nil _)
    | test => exact .cons trivial (fits_nil _)
    | @ifSome shape =>
      have hforwarded : ∀ a ∈ shape.forwarded.filterMap (args[·]?), IsWord a.type.text :=
        fun a ha => hargs a (forwarded_subset shape args ha)
      have hlength : (shape.forwarded.filterMap (args[·]?)).length ≤ 2 := by
        refine (List.length_filterMap_le _ _).trans ?_
        cases shape <;> decide
      rw [forwarding]
      split_ifs
      · exact fits_nil _
      · exact (fits_forward hl hforwarded).mono (by omega)
    | @primitiveOrElseGet p s a owner ha howner =>
      have hobject := Descriptor.forall_mem_of_className? (hargs a (List.mem_of_head? ha)).2 howner
      obtain ⟨hmethod, hparams, hresult⟩ := s.isWord_accessor p
      refine (fits_loads args).append (.cons ?_ (fits_nil 3))
      exact hasWords_invoke _ _ hobject hmethod hparams (hresult ▸ p.isWord_descriptor)
    | mapNarrowed hc => exact hempty _ (.cons (hname hc) (fits_nil _))
    | mapEmpty => exact hempty _ (fits_nil _)
  exact hbefore.append (.cons hexit (fits_nil 0))

end

end Pattern

end ErasedBridges
