import ErasedBridges.Proofs.Bridge.Acceptance
import Mathlib.Data.List.Find

/-!
# The shapes exclude each other

The shape of some parameters is the first candidate that fits them. No parameters fit two
candidates, so any other order of the candidates gives the same shape. The two kinds of action end
alike in the element type and what follows it, and are told apart by what stands before it.
-/

namespace ErasedBridges

namespace IfSomeShape

/-! ### Ends -/

/-- A text can have both ends if the one is an end of the other. -/
def Compatible (s t : Text) : Prop := s <:+ t ∨ t <:+ s

instance (s t : Text) : Decidable (Compatible s t) := inferInstanceAs (Decidable (_ ∨ _))

/-- The longer one has the `j` of `Obj` where the shorter one has its slash. -/
theorem not_compatible_actions (element : Text) :
    ¬ Compatible (suffixes.action element) (suffixes.objAction element) := by
  rintro (⟨pre, hpre⟩ | hlonger)
  · have hslash : pre ++ ['/'] = "/Obj".toList := by
      have hsame : (pre ++ ['/']) ++ (element ++ "Consumer;".toList) =
          "/Obj".toList ++ (element ++ "Consumer;".toList) := by
        rw [List.append_assoc, List.singleton_append, ← List.append_assoc]
        exact hpre
      exact List.append_cancel_right hsame
    have hlast : some '/' = "/Obj".toList.getLast? := by
      rw [← hslash, List.getLast?_concat]
    exact absurd hlast (by decide)
  · have hlength := hlonger.length_le
    simp only [suffixes.action, suffixes.objAction, List.length_cons, List.length_append] at hlength
    have hobj : "/Obj".toList.length = 4 := rfl
    omega

theorem forall₂_compatible {params : List Descriptor} {ends ends' : List Text}
    (h : List.Forall₂ (fun d suffix => suffix <:+ d.text) params ends)
    (h' : List.Forall₂ (fun d suffix => suffix <:+ d.text) params ends') :
    List.Forall₂ Compatible ends ends' := by
  induction h generalizing ends' with
  | nil =>
    cases h'
    exact .nil
  | cons hd _ ih =>
    cases h' with
    | cons hd' hrest => exact .cons (List.suffix_or_suffix_of_suffix hd hd') (ih hrest)

/-! ### Candidates -/

/-- Two candidates with equally many ends differ in the action or in what the last parameter is. -/
theorem pairwise_candidates (element : Text) (orElse : Bool) :
    (candidates orElse).Pairwise fun s t =>
      ¬ List.Forall₂ Compatible (s.suffixes element) (t.suffixes element) := by
  have hactions := not_compatible_actions element
  have hlast : ¬ Compatible "/Runnable;".toList "/Object;".toList := by
    decide
  cases orElse with
  | false => simp [candidates, suffixes]
  | true => simp [candidates, suffixes, hactions, hlast, -String.reduceToList]

variable {rest element : Text} {params : List Descriptor} {orElse : Bool} {shape : IfSomeShape}

theorem eq_of_fits {s t : IfSomeShape} (hs : s ∈ candidates orElse) (ht : t ∈ candidates orElse)
    (hfits : s.fits element params = true) (hfits' : t.fits element params = true) : s = t := by
  have hapart : (candidates orElse).Pairwise fun s t =>
      ¬ (s.fits element params = true ∧ t.fits element params = true) :=
    (pairwise_candidates element orElse).imp fun h hboth =>
      h (forall₂_compatible (fits_iff.1 hboth.1) (fits_iff.1 hboth.2))
  have : Std.Symm fun s t : IfSomeShape =>
      ¬ (s.fits element params = true ∧ t.fits element params = true) :=
    ⟨fun _ _ h hboth => h hboth.symm⟩
  by_contra hne
  exact hapart.forall hs ht hne ⟨hfits, hfits'⟩

theorem of?_eq_some_iff :
    of? rest params = some shape ↔
      shape ∈ candidates (splitName rest).2 ∧ shape.fits (splitName rest).1 params = true := by
  constructor
  · intro h
    exact ⟨List.mem_of_find?_eq_some h, List.find?_some h⟩
  · rintro ⟨hmem, hfits⟩
    obtain ⟨found, hfound⟩ := Option.isSome_iff_exists.1 (List.find?_isSome.2 ⟨shape, hmem, hfits⟩)
    have hsame : found = shape :=
      eq_of_fits (List.mem_of_find?_eq_some hfound) hmem (List.find?_some hfound) hfits
    exact hsame ▸ hfound

/-! ### Forwarded parameters -/

/-- The places of nothing, of an action on no value, or of one on an object and of that object. -/
inductive Forwards (params : List Descriptor) : List Nat → Prop where
  | nothing : Forwards params []
  | run {i : Nat} {action : Descriptor} : params[i]? = some action →
      "/Runnable;".toList <:+ action.text → Forwards params [i]
  | accept {i : Nat} {action argument : Descriptor} : params[i]? = some action →
      "/Consumer;".toList <:+ action.text → params[i + 1]? = some argument →
      "/Object;".toList <:+ argument.text → Forwards params [i, i + 1]

theorem forwards_of_fits (h : shape.fits element params = true) :
    Forwards params shape.forwarded := by
  have hends := fits_iff.1 h
  cases shape with
  | consumer | objConsumer => exact .nothing
  | consumerOrRun =>
    obtain _ | ⟨-, _ | ⟨hrun, _⟩⟩ := hends
    exact .run rfl hrun
  | objConsumerOrRun =>
    obtain _ | ⟨-, _ | ⟨-, _ | ⟨hrun, _⟩⟩⟩ := hends
    exact .run rfl hrun
  | consumerOrAccept | objConsumerOrAccept =>
    obtain _ | ⟨-, _ | ⟨haccept, _ | ⟨hargument, _⟩⟩⟩ := hends
    exact .accept rfl haccept rfl hargument
  | objConsumerArgOrAccept =>
    obtain _ | ⟨-, _ | ⟨-, _ | ⟨haccept, _ | ⟨hargument, _⟩⟩⟩⟩ := hends
    exact .accept rfl haccept rfl hargument

/-- At most one candidate fits, so their order does not matter, and the shape that is found names
the parameters and forwards an action for no value. -/
theorem shape_unambiguous (rest : Text) (params : List Descriptor) :
    (∀ s ∈ candidates (splitName rest).2, ∀ t ∈ candidates (splitName rest).2,
      s.fits (splitName rest).1 params = true → t.fits (splitName rest).1 params = true → s = t) ∧
    (∀ order : List IfSomeShape, order.Perm (candidates (splitName rest).2) →
      order.find? (·.fits (splitName rest).1 params) = of? rest params) ∧
    ∀ shape, of? rest params = some shape →
      shape.parameterNames.length = params.length ∧ Forwards params shape.forwarded := by
  refine ⟨fun s hs t ht hfits hfits' => eq_of_fits hs ht hfits hfits', ?_, ?_⟩
  · intro order hperm
    refine List.find?_eq_find?_of_perm hperm ?_
    rintro s ⟨hs, hfits⟩ t ⟨ht, hfits'⟩
    exact eq_of_fits (hperm.subset hs) (hperm.subset ht) hfits hfits'
  · intro shape h
    exact ⟨length_of_of? h, forwards_of_fits (of?_eq_some_iff.1 h).2⟩

def acceptingParams : List Descriptor :=
  [⟨"Lme/dkleszyk/java/function/ObjLongConsumer;".toList⟩,
    ⟨"Ljava/util/function/Consumer;".toList⟩, ⟨"Ljava/lang/Object;".toList⟩]

theorem shape_unambiguous_accepting :
    of? "LongOrElse".toList acceptingParams = some objConsumerOrAccept ∧
      (candidates true).reverse.find? (·.fits "Long".toList acceptingParams) =
        some objConsumerOrAccept ∧
      (∀ s ∈ candidates true, s.fits "Long".toList acceptingParams = true →
        s = objConsumerOrAccept) ∧
      objConsumerOrAccept.parameterNames.length = 3 ∧ Forwards acceptingParams [1, 2] := by
  have hname : splitName "LongOrElse".toList = ("Long".toList, true) := by
    decide
  have hshape : of? "LongOrElse".toList acceptingParams = some objConsumerOrAccept := by
    decide +kernel
  have hfits : objConsumerOrAccept.fits "Long".toList acceptingParams = true := by
    decide +kernel
  obtain ⟨hunique, horder, hfound⟩ := shape_unambiguous "LongOrElse".toList acceptingParams
  rw [hname] at hunique horder
  obtain ⟨hnames, hforwards⟩ := hfound objConsumerOrAccept hshape
  refine ⟨hshape, (horder _ (List.reverse_perm _)).trans hshape, ?_, hnames, hforwards⟩
  exact fun s hs hs' => hunique s hs objConsumerOrAccept (by decide) hs' hfits

end IfSomeShape

end ErasedBridges
