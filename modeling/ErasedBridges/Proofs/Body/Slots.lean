import Mathlib
import ErasedBridges.Bridge.Synthesis

/-!
# Slots of the receiver and the parameters

The receiver has slot zero, and every parameter stands directly after the one before it.
-/

namespace ErasedBridges

theorem slotsOf_cons (d : Descriptor) (ds : List Descriptor) :
    slotsOf (d :: ds) = d.slots + slotsOf ds := rfl

theorem slotsOf_append (ds es : List Descriptor) :
    slotsOf (ds ++ es) = slotsOf ds + slotsOf es := by
  induction ds with
  | nil => simp [slotsOf]
  | cons d ds ih => rw [List.cons_append, slotsOf_cons, slotsOf_cons, ih, Nat.add_assoc]

theorem Descriptor.slots_pos {d : Descriptor} (h : d.isVoid = false) : 0 < d.slots := by
  rw [slots, h]
  cases d.baseType? with
  | none => decide
  | some b => cases b <;> decide

/-- The first slot of the parameter with this index: the receiver and the parameters before it
come first. -/
def firstSlot (params : List Descriptor) (i : Nat) : Nat := 1 + slotsOf (params.take i)

theorem firstSlot_lt {params : List Descriptor} (h : ∀ d ∈ params, d.isVoid = false) {i j : Nat}
    (hij : i < j) (hj : j ≤ params.length) : firstSlot params i < firstSlot params j := by
  induction j, hij using Nat.le_induction with
  | base =>
    have hpos := Descriptor.slots_pos (h params[i] (List.getElem_mem hj))
    rw [firstSlot, firstSlot, List.take_succ_eq_append_getElem hj, slotsOf_append, slotsOf_cons]
    omega
  | succ j hij ih =>
    have hlt := ih (by omega)
    rw [firstSlot, firstSlot, List.take_succ_eq_append_getElem hj, slotsOf_append]
    rw [firstSlot, firstSlot] at hlt
    omega

/-- Every parameter has slots of its own, as none of them is `V`. -/
theorem firstSlot_inj {params : List Descriptor} (h : ∀ d ∈ params, d.isVoid = false) {i j : Nat}
    (hi : i < params.length) (hj : j < params.length)
    (hij : firstSlot params i = firstSlot params j) : i = j := by
  rcases lt_trichotomy i j with hlt | heq | hlt
  · have := firstSlot_lt h hlt hj.le
    omega
  · exact heq
  · have := firstSlot_lt h hlt hi.le
    omega

/-! ### Arguments -/

namespace Argument

/-- The parameters of an instance method, each with its first slot. -/
def ofParams (params : List Descriptor) : List Argument :=
  params.mapIdx fun i d => ⟨d, firstSlot params i⟩

theorem mem_ofParams {params : List Descriptor} {a : Argument} :
    a ∈ ofParams params ↔ ∃ i, params[i]? = some a.type ∧ a.slot = firstSlot params i := by
  rw [ofParams, List.mem_iff_getElem?]
  simp only [List.getElem?_mapIdx, Option.map_eq_some_iff]
  constructor
  · rintro ⟨i, d, hd, rfl⟩
    exact ⟨i, hd, rfl⟩
  · rintro ⟨i, hi, hslot⟩
    refine ⟨i, a.type, hi, ?_⟩
    rw [← hslot]

theorem types_ofParams (params : List Descriptor) : (ofParams params).map type = params := by
  refine List.ext_getElem? fun i => ?_
  rw [ofParams, List.getElem?_map, List.getElem?_mapIdx, Option.map_map]
  exact Option.map_id_apply

theorem length_ofParams (params : List Descriptor) : (ofParams params).length = params.length := by
  rw [← List.length_map type, types_ofParams]

end Argument

end ErasedBridges
