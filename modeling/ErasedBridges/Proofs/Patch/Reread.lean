import ErasedBridges.Proofs.Bridge.Lines
import ErasedBridges.Proofs.Patch.Printable

/-!
# The patched empty class is found patched

The text of the patched class lists the specialised interfaces, whatever the texts are that the
class and the interfaces were read from. So if it can be read again, it cannot be patched again.
-/

namespace ErasedBridges

open Text

namespace ClassFile

variable {l : Layout} {bridges : List Bridge} {c patched : ClassFile}

theorem closed_patchEmpty (hc : ∀ i ∈ c.items, i.Closed)
    (h : c.patchEmpty l (bridges.map Bridge.method) = .ok patched) :
    ∀ i ∈ patched.items, i.Closed :=
  forall_mem_patchEmpty h hc (fun _ => trivial) ⟨rfl, rfl, rfl⟩
    (List.forall_mem_map.2 fun b _ => b.closed_method) fun _ _ _ _ => trivial

theorem lines_patchEmpty (hl : l.BlankFree) {t : Text} (hc : read t = .ok c)
    (hbridges : ∀ b ∈ bridges, ∀ line ∈ b.method.lines, '\n' ∉ line)
    (h : c.patchEmpty l (bridges.map Bridge.method) = .ok patched) :
    ∀ line ∈ patched.lines, '\n' ∉ line := by
  have hreadable := readable_of_read hc
  have hitems : ∀ i ∈ c.items, (∀ line ∈ i.lines, '\n' ∉ line) ∧
      ∀ s ∈ i.signature?, '\n' ∉ s.value := by
    intro i hi
    refine ⟨(hreadable i hi).lines fun _ hs => hs.1, fun s hs => ?_⟩
    cases i with
    | signature s' =>
      cases hs
      exact (show s.Readable from hreadable _ hi).breakFree
    | _ => cases hs
  refine List.forall_mem_flatMap.2 fun i hi => (forall_mem_patchEmpty
    (Q := fun i => (∀ line ∈ i.lines, '\n' ∉ line) ∧ ∀ s ∈ i.signature?, '\n' ∉ s.value) h hitems
    (fun p => ⟨?_, nofun⟩) ⟨List.forall_mem_singleton.2 List.not_mem_nil, nofun⟩
    (List.forall_mem_map.2 fun b hb => ⟨hbridges b hb, nofun⟩) fun s s' hs hadd => ?_) i hi |>.1
  · have hstart : '\n' ∉ ".implements ".toList := by decide
    exact List.forall_mem_singleton.2 ((hl.isWord_interface p).isPhrase.isInkLine_append hstart).1
  · obtain ⟨signature, rfl, hwords, -⟩ := SignatureText.hasWords_addInterfaces notBreak_of_isInk hl
      (forall_notBreak_iff.2 (hs.2 s rfl)) hadd
    have hvalue : '\n' ∉ signature.text :=
      forall_notBreak_iff.1 (hwords.forall_mem_text notBreak_of_isInk)
    have hstart : '\n' ∉ ".signature ".toList := by decide
    refine ⟨List.forall_mem_singleton.2 ?_, ?_⟩
    · rw [List.mem_append]
      exact not_or.2 ⟨hstart, SignatureText.break_notMem_text hvalue⟩
    · rintro _ ⟨⟩
      exact hvalue

/-- The interfaces are found by a second patch, which is then refused. -/
theorem patchEmpty_ne_ok_of_patched (hl : l.BlankFree) {t : Text} (hc : read t = .ok c)
    (hbridges : ∀ b ∈ bridges, ∀ line ∈ b.method.lines, '\n' ∉ line)
    (h : c.patchEmpty l (bridges.map Bridge.method) = .ok patched) {again : ClassFile}
    (hread : read patched.printed = .ok again) (methods : List Method) (result : ClassFile) :
    again.patchEmpty l methods ≠ .ok result := by
  intro hagain
  have hclosed := closed_patchEmpty (fun i hi => (readable_of_read hc i hi).closed) h
  have hmem : l.interface .boolean ∈ again.interfaces :=
    mem_interfaces_of_read_printed (lines_patchEmpty hl hc hbridges h) hclosed hread
      (hl.isWord_interface .boolean) (implements_mem_patchEmpty h .boolean)
  exact checkInterfaces_eq_ok (patchEmpty_eq_ok hagain).2.1 _ hmem
    (List.mem_map_of_mem (Primitive.mem_all .boolean))

end ClassFile

end ErasedBridges
