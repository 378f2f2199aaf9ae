import ErasedBridges.Proofs.ClassFile.Readable
import ErasedBridges.Proofs.Patch.Delegation

/-!
# The delegated code is readable

Eliminating a cast changes one item of the class, and that in its code only: the bridge takes the
code of the implementation with its own line and the type of its argument. So the code stays
readable.
-/

namespace ErasedBridges

open Text

variable {P : Text → Prop}

theorem CodeItem.ChangesEntry.readable {ε : Type} {table : List ε → CodeItem} {p Q : ε → Prop}
    {change : ε → ε} {items items' : List CodeItem} (h : ChangesEntry table p change items items')
    (htable : ∀ es, (table es).Readable P ↔ ∀ e ∈ es, Q e) (hchange : ∀ e, Q e → Q (change e))
    (hitems : ∀ i ∈ items, i.Readable P) : ∀ i ∈ items', i.Readable P := by
  obtain ⟨es, es', e, hreplaces, hes⟩ := h
  refine hreplaces.forall_mem hitems fun hold => (htable es').2 ?_
  exact hes.forall_mem ((htable es).1 hold) (hchange e)

namespace Code

theorem le_of_mem_lineNumbers? {c : Code} (hc : c.Readable P) {es : List LineEntry}
    (h : c.lineNumbers? = some es) {e : LineEntry} (he : e ∈ es) : e.line ≤ maxLine := by
  obtain ⟨i, hi, hentries⟩ := List.exists_of_findSome?_eq_some h
  obtain rfl := CodeItem.lineNumbers?_eq_some.1 hentries
  have hreadable : ∀ e ∈ es, e.Readable := hc.items _ hi
  exact (hreadable e he).line

theorem Readable.retargets {c c' : Code} (hc : c.Readable P) {line : Nat} (hline : line ≤ maxLine)
    {type : Text} (htype : IsWord type) (h : c.Retargets line type c') : c'.Readable P := by
  obtain ⟨hstack, hlocals, items, hlines, hvariables⟩ := h
  have hitems : ∀ i ∈ items, i.Readable P :=
    hlines.readable (fun _ => Iff.rfl) (fun _ he => ⟨he.label, hline⟩) hc.items
  refine ⟨hstack ▸ hc.stack, hlocals ▸ hc.locals, ?_⟩
  exact hvariables.readable (fun _ => Iff.rfl)
    (fun _ he => ⟨he.index, he.name, htype, he.start, he.stop⟩) hitems

end Code

namespace Method

theorem Readable.code? {m : Method} (hm : m.Readable P) {code : Code}
    (h : m.code? = some code) : code.Readable P := by
  obtain ⟨a, ha, hcode⟩ := List.exists_of_findSome?_eq_some h
  obtain rfl := code?_eq_some.1 hcode
  exact hm.attributes _ ha

theorem Readable.replacesCode {m m' : Method} (hm : m.Readable P) {old code : Code}
    (hcode : code.Readable P) (h : m.ReplacesCode old code m') : m'.Readable P := by
  obtain ⟨attributes, hreplaces, rfl⟩ := h
  exact ⟨⟨hm.header.isWord, hm.header.descriptor⟩,
    hreplaces.forall_mem hm.attributes fun _ => hcode⟩

end Method

end ErasedBridges
