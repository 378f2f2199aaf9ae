import ErasedBridges.Patch.EmptyVariant
import ErasedBridges.Proofs.Bridge.Synthesis

/-!
# The patched empty class

Patching splices lists: the interfaces after the generic one, the bridges before the signature. So
the methods of the patched class are those of the class and the bridges, and as no method is
declared twice, each bridge is the only method of its name and descriptor.
-/

namespace ErasedBridges

namespace Method

/-- What no two methods of a class may share. -/
def key (m : Method) : Text × Text := (m.name, m.descriptor)

end Method

theorem firstDuplicate?_eq_none {declared : List (Text × Text)} {ms : List Method}
    (h : firstDuplicate? declared ms = none) :
    (ms.map Method.key).Nodup ∧ ∀ m ∈ ms, m.key ∉ declared := by
  induction ms generalizing declared with
  | nil => exact ⟨List.nodup_nil, List.forall_mem_nil _⟩
  | cons m ms ih =>
    rw [firstDuplicate?] at h
    split at h
    · cases h
    · next hm =>
      obtain ⟨hnodup, hms⟩ := ih h
      have hnew : m.key ∉ declared := by simpa [Method.key] using hm
      refine ⟨List.nodup_cons.2 ⟨?_, hnodup⟩, List.forall_mem_cons.2 ⟨hnew, fun m' hm' hd => ?_⟩⟩
      · intro hkey
        obtain ⟨m', hm', he⟩ := List.mem_map.1 hkey
        exact hms m' hm' (he ▸ List.mem_cons_self)
      · exact hms m' hm' (List.mem_cons_of_mem _ hd)

theorem filter_key_eq_singleton {ms : List Method} (h : (ms.map Method.key).Nodup) {m : Method}
    (hm : m ∈ ms) : ms.filter (·.key = m.key) = [m] := by
  induction ms with
  | nil => cases hm
  | cons m' ms ih =>
    obtain ⟨hnew, hnodup⟩ := List.nodup_cons.1 h
    rcases List.mem_cons.1 hm with rfl | hm
    · have hrest : ms.filter (·.key = m.key) = [] := by
        refine List.filter_eq_nil_iff.2 fun m' hm' he => hnew ?_
        exact List.mem_map.2 ⟨m', hm', of_decide_eq_true he⟩
      rw [List.filter_cons_of_pos (by simp), hrest]
    · have hne : m'.key ≠ m.key := fun he => hnew (he ▸ List.mem_map_of_mem hm)
      rw [List.filter_cons_of_neg (by simpa using hne), ih hnodup hm]

/-- The interfaces go behind the first supertype that is the generic one. -/
theorem SignatureText.addInterfaces_eq_ok {l : Layout} {className : Text} {s s' : SignatureText}
    (h : s.addInterfaces l className = .ok s') :
    ∃ parsed before after, ClassSignature.parse s.value = .ok parsed ∧
      parsed.supertypes = before ++ ⟨l.baseInterfaceSegment⟩ :: after ∧
      ⟨l.baseInterfaceSegment⟩ ∉ before ∧
      s' = ⟨ClassSignature.text ⟨parsed.typeParams, before ++ ⟨l.baseInterfaceSegment⟩ ::
        (l.interfaces.map .object ++ after)⟩, s.quote⟩ := by
  obtain ⟨parsed, hparsed, h⟩ := bind_eq_ok.1 h
  obtain ⟨segment, hsegment, h⟩ := bind_eq_ok.1 h
  obtain rfl : segment = ⟨l.baseInterfaceSegment⟩ := by
    rw [← Descriptor.text_of_parse (PatchError.ofRead_eq_ok.1 hsegment)]
  split at h
  · next before base after hsplit =>
    obtain ⟨hsupertypes, hbase, hbefore⟩ := splitAtFirst?_eq_some hsplit
    obtain rfl : base = ⟨l.baseInterfaceSegment⟩ := beq_iff_eq.1 hbase
    cases h
    exact ⟨parsed, before, after, PatchError.ofRead_eq_ok.1 hparsed, hsupertypes.symm,
      fun hmem => beq_eq_false_iff_ne.1 (hbefore _ hmem) rfl, rfl⟩
  · cases h

namespace ClassFile

theorem checkDuplicates_eq_ok {c : ClassFile} {bridges : List Method}
    (h : c.checkDuplicates bridges = .ok ()) :
    (bridges.map Method.key).Nodup ∧ ∀ m ∈ bridges, m.key ∉ c.methods.map Method.key := by
  rw [checkDuplicates] at h
  split at h
  · cases h
  · next hnone => exact firstDuplicate?_eq_none hnone

theorem addInterfaces_eq_ok {l : Layout} {c : ClassFile} {items : List ClassItem}
    (h : c.addInterfaces l = .ok items) :
    ∃ before after, c.items = before ++ .implements l.baseInterfaceName :: after ∧
      items = before ++ .implements l.baseInterfaceName :: (l.interfaces.map .implements ++ after) ∧
      ∀ i ∈ before, i.interface? ≠ some l.baseInterfaceName := by
  rw [addInterfaces] at h
  split at h
  · next before base after hsplit =>
    obtain ⟨hitems, hbase, hbefore⟩ := splitAtFirst?_eq_some hsplit
    obtain rfl : base = .implements l.baseInterfaceName := by
      cases base <;> simp [ClassItem.interface?] at hbase ⊢
      exact hbase
    cases h
    exact ⟨before, after, hitems.symm, rfl, fun i hi => beq_eq_false_iff_ne.1 (hbefore i hi)⟩
  · cases h

/-- No specialised interface is declared yet. -/
theorem checkInterfaces_eq_ok {l : Layout} {c : ClassFile} (h : c.checkInterfaces l = .ok ()) :
    ∀ name ∈ c.interfaces, name ∉ l.interfaces := by
  rw [checkInterfaces] at h
  split at h
  · cases h
  · next hnone =>
    intro name hname
    simpa using List.find?_eq_none.1 hnone name hname

/-- The interfaces go into the items first, and then the bridges before the signature. -/
theorem patchEmpty_eq_ok {l : Layout} {bridges : List Method} {c patched : ClassFile}
    (h : c.patchEmpty l bridges = .ok patched) :
    c.checkDuplicates bridges = .ok () ∧ c.checkInterfaces l = .ok () ∧ ∃ before after s s',
      c.addInterfaces l = .ok (before ++ .signature s :: after) ∧
      s.addInterfaces l c.displayName = .ok s' ∧
      patched = ⟨before ++ (bridgeItems bridges ++ .signature s' :: after)⟩ ∧
      ∀ i ∈ before, i.signature? = none := by
  obtain ⟨⟨⟩, hduplicates, h⟩ := bind_eq_ok.1 h
  obtain ⟨⟨⟩, hinterfaces, h⟩ := bind_eq_ok.1 h
  obtain ⟨items, hitems, h⟩ := bind_eq_ok.1 h
  split at h
  · next before s after hsplit =>
    obtain ⟨s', hs', hend⟩ := bind_eq_ok.1 h
    cases hend
    obtain ⟨rfl, -, hbefore⟩ := splitAtFirst?_eq_some hsplit
    refine ⟨hduplicates, hinterfaces, before, after, s, s', hitems, hs', rfl, fun i hi => ?_⟩
    simpa using hbefore i hi
  · cases h

/-- An item of the patched class is one of the class, or it is new. -/
theorem forall_mem_patchEmpty {Q : ClassItem → Prop} {l : Layout} {bridges : List Method}
    {c patched : ClassFile} (h : c.patchEmpty l bridges = .ok patched) (hc : ∀ i ∈ c.items, Q i)
    (hinterface : ∀ p, Q (.implements (l.interface p))) (hblank : Q (.raw []))
    (hbridges : ∀ m ∈ bridges, Q (.method m))
    (hsignature : ∀ s s', Q (.signature s) → s.addInterfaces l c.displayName = .ok s' →
      Q (.signature s')) : ∀ i ∈ patched.items, Q i := by
  obtain ⟨-, -, before, after, s, s', hadd, hs, rfl, -⟩ := patchEmpty_eq_ok h
  obtain ⟨start, rest, hitems, hadded, -⟩ := addInterfaces_eq_ok hadd
  rw [hitems] at hc
  obtain ⟨hstart, hrest⟩ := List.forall_mem_append.1 hc
  obtain ⟨hbase, hrest⟩ := List.forall_mem_cons.1 hrest
  have hinterfaces : ∀ i ∈ l.interfaces.map ClassItem.implements, Q i :=
    List.forall_mem_map.2 (List.forall_mem_map.2 fun p _ => hinterface p)
  have hall : ∀ i ∈ before ++ .signature s :: after, Q i := by
    rw [hadded]
    exact List.forall_mem_append.2 ⟨hstart, List.forall_mem_cons.2
      ⟨hbase, List.forall_mem_append.2 ⟨hinterfaces, hrest⟩⟩⟩
  obtain ⟨hbefore, hafter⟩ := List.forall_mem_append.1 hall
  obtain ⟨hold, hafter⟩ := List.forall_mem_cons.1 hafter
  have hitems' : ∀ i ∈ bridgeItems bridges, Q i := List.forall_mem_flatMap.2 fun m hm =>
    List.forall_mem_cons.2 ⟨hblank, List.forall_mem_singleton.2 (hbridges m hm)⟩
  exact List.forall_mem_append.2 ⟨hbefore, List.forall_mem_append.2
    ⟨hitems', List.forall_mem_cons.2 ⟨hsignature s s' hold hs, hafter⟩⟩⟩

/-- Every specialised interface is declared. -/
theorem implements_mem_patchEmpty {l : Layout} {bridges : List Method} {c patched : ClassFile}
    (h : c.patchEmpty l bridges = .ok patched) (p : Primitive) :
    .implements (l.interface p) ∈ patched.items := by
  obtain ⟨-, -, before, after, s, s', hadd, -, rfl, -⟩ := patchEmpty_eq_ok h
  obtain ⟨start, rest, -, hadded, -⟩ := addInterfaces_eq_ok hadd
  have hmem : ClassItem.implements (l.interface p) ∈ before ++ .signature s :: after := by
    rw [hadded]
    refine List.mem_append_right _ (List.mem_cons_of_mem _ (List.mem_append_left _ ?_))
    exact List.mem_map_of_mem (List.mem_map_of_mem p.mem_all)
  rcases List.mem_append.1 hmem with hmem | hmem
  · exact List.mem_append_left _ hmem
  · rcases List.mem_cons.1 hmem with hmem | hmem
    · cases hmem
    · exact List.mem_append_right _ (List.mem_append_right _ (List.mem_cons_of_mem _ hmem))

theorem filterMap_bridgeItems (bridges : List Method) :
    (bridgeItems bridges).filterMap ClassItem.method? = bridges := by
  induction bridges with
  | nil => rfl
  | cons m ms ih =>
    rw [bridgeItems, List.flatMap_cons, ← bridgeItems, List.filterMap_append, ih]
    rfl

theorem filterMap_implements (names : List Text) :
    (names.map ClassItem.implements).filterMap ClassItem.method? = [] := by
  rw [List.filterMap_map]
  exact List.filterMap_eq_nil_iff.2 fun _ _ => rfl

theorem methods_patchEmpty {l : Layout} {bridges : List Method} {c patched : ClassFile}
    (h : c.patchEmpty l bridges = .ok patched) :
    ∃ before after, c.methods = before ++ after ∧
      patched.methods = before ++ (bridges ++ after) := by
  obtain ⟨-, -, before, after, s, s', hadd, -, rfl, -⟩ := patchEmpty_eq_ok h
  obtain ⟨start, rest, hc, hitems, -⟩ := addInterfaces_eq_ok hadd
  have hsame : c.methods = (before ++ .signature s :: after).filterMap ClassItem.method? := by
    rw [methods, hc, hitems]
    simp only [List.filterMap_append, List.filterMap_cons, ClassItem.method?, filterMap_implements,
      List.nil_append]
  refine ⟨before.filterMap ClassItem.method?, after.filterMap ClassItem.method?, ?_, ?_⟩
  · rw [hsame, List.filterMap_append, List.filterMap_cons]
    rfl
  · rw [methods, List.filterMap_append, List.filterMap_append, List.filterMap_cons,
      filterMap_bridgeItems]
    rfl

/-- A bridge is the only method of its name and descriptor. -/
theorem filter_methods_patchEmpty {l : Layout} {bridges : List Method} {c patched : ClassFile}
    (h : c.patchEmpty l bridges = .ok patched) {m : Method} (hm : m ∈ bridges) :
    patched.methods.filter (·.key = m.key) = [m] := by
  obtain ⟨hnodup, hnew⟩ := checkDuplicates_eq_ok (patchEmpty_eq_ok h).1
  obtain ⟨before, after, hc, hpatched⟩ := methods_patchEmpty h
  have hother : ∀ m' ∈ c.methods, ¬decide (m'.key = m.key) = true := by
    intro m' hm' he
    exact hnew m hm (List.mem_map.2 ⟨m', hm', of_decide_eq_true he⟩)
  rw [hc] at hother
  obtain ⟨hbefore, hafter⟩ := List.forall_mem_append.1 hother
  rw [hpatched, List.filter_append, List.filter_append, filter_key_eq_singleton hnodup hm,
    List.filter_eq_nil_iff.2 hbefore, List.filter_eq_nil_iff.2 hafter]
  rfl

end ClassFile

end ErasedBridges
