import ErasedBridges.Proofs.Patch.Splice

/-!
# The signature and the list of interfaces agree

The interfaces of a class stand in its signature behind the superclass, in the same order. Patching
the empty class edits the two lists on its own, but if no interface is there twice then the
generic one has the same place in both.
-/

namespace ErasedBridges

open Descriptor

namespace Layout

theorem className?_baseInterfaceSegment {l : Layout} (hl : l.BracketFree) :
    className? ⟨l.baseInterfaceSegment⟩ = some l.baseInterfaceName := by
  have hname : className? ⟨'L' :: (l.baseInterfaceName ++ ("<T".toList ++ l.typeVariable ++
      ";>".toList) ++ [';'])⟩ = some l.baseInterfaceName :=
    className?_arguments hl.baseInterfaceName (Or.inr rfl)
  rw [baseInterfaceSegment, appliedToVariable, ← hname]
  simp

end Layout

namespace ClassItem

variable {l : Layout} {bridges : List Method} {s s' : SignatureText} {items items' : List ClassItem}

theorem mem_bridgeItems {i : ClassItem} (h : i ∈ bridges.flatMap fun m => [raw [], method m]) :
    i.interface? = none ∧ i.signature? = none := by
  obtain ⟨m, -, hi⟩ := List.mem_flatMap.1 h
  rcases List.mem_pair.1 hi with rfl | rfl
  · exact ⟨rfl, rfl⟩
  · exact ⟨rfl, rfl⟩

theorem Spliced.interfaces (h : Spliced l bridges s s' items items') :
    ∃ before after, items.filterMap interface? = before ++ l.baseInterfaceName :: after ∧
      l.baseInterfaceName ∉ before ∧
      items'.filterMap interface? = before ++ l.baseInterfaceName :: (l.interfaces ++ after) := by
  have hbridges : (bridges.flatMap fun m => [raw [], method m]).filterMap interface? = [] :=
    List.filterMap_eq_nil_iff.2 fun i hi => (mem_bridgeItems hi).1
  have hadded : (Primitive.all.map fun p => implements (l.interface p)).filterMap interface? =
      l.interfaces := by
    rw [List.filterMap_map]
    exact congrFun List.filterMap_eq_map Primitive.all
  have hnot {is : List ClassItem} (his : ∀ i ∈ is, i.interface? ≠ some l.baseInterfaceName) :
      l.baseInterfaceName ∉ is.filterMap interface? := by
    intro hmem
    obtain ⟨i, hi, hname⟩ := List.mem_filterMap.1 hmem
    exact his i hi hname
  cases h with
  | @interfaceFirst before between after hinterface hsignature =>
    refine ⟨before.filterMap interface?, between.filterMap interface? ++ after.filterMap interface?,
      ?_, hnot hinterface, ?_⟩
    · simp only [List.filterMap_append, List.filterMap_cons, interface?]
    · simp only [List.filterMap_append, List.filterMap_cons, interface?, hbridges, hadded,
        List.nil_append]
  | @signatureFirst before between after hinterface hsignature =>
    refine ⟨(before ++ between).filterMap interface?, after.filterMap interface?, ?_,
      hnot hinterface, ?_⟩
    · simp only [List.filterMap_append, List.filterMap_cons, interface?, List.append_assoc]
    · simp only [List.filterMap_append, List.filterMap_cons, interface?, hbridges, hadded,
        List.nil_append, List.append_assoc]

theorem Spliced.signature (h : Spliced l bridges s s' items items') :
    items.findSome? signature? = some s ∧ items'.findSome? signature? = some s' := by
  have hbridges : (bridges.flatMap fun m => [raw [], method m]).findSome? signature? = none :=
    List.findSome?_eq_none_iff.2 fun i hi => (mem_bridgeItems hi).2
  have hadded : (Primitive.all.map fun p => implements (l.interface p)).findSome? signature? =
      none :=
    List.findSome?_eq_none_iff.2 (List.forall_mem_map.2 fun _ _ => rfl)
  have hnone {is : List ClassItem} (his : ∀ i ∈ is, i.signature? = none) :
      is.findSome? signature? = none := List.findSome?_eq_none_iff.2 his
  cases h with
  | @interfaceFirst before between after hinterface hsignature =>
    obtain ⟨hbefore, hbetween⟩ := List.forall_mem_append.1 hsignature
    constructor
    · simp only [List.findSome?_append, List.findSome?_cons, hnone hbefore, hnone hbetween,
        signature?, Option.none_or]
    · simp only [List.findSome?_append, List.findSome?_cons, hnone hbefore, hnone hbetween,
        hbridges, hadded, signature?, Option.none_or]
  | @signatureFirst before between after hinterface hsignature =>
    constructor
    · simp only [List.findSome?_append, List.findSome?_cons, hnone hsignature, signature?,
        Option.none_or]
    · simp only [List.findSome?_append, List.findSome?_cons, hnone hsignature, hbridges,
        signature?, Option.none_or]

end ClassItem

/-- The supertypes after this first one are, in order, the interfaces of the class, and none of
these is there twice. -/
def ClassFile.Agrees (c : ClassFile) (superclass : Descriptor) : Prop :=
  ∃ s typeParams interfaces, c.signature? = some s ∧
    ClassSignature.parse s.value = .ok ⟨typeParams, superclass :: interfaces⟩ ∧
    interfaces.map className? = c.interfaces.map some ∧ c.interfaces.Nodup

/-- In lists that name the same interfaces, the generic one has the same place. -/
theorem className?_splice {name : Text} {before after : List Text}
    {ds es : List Descriptor} {d : Descriptor} (hd : d.className? = some name)
    (hnodup : (before ++ name :: after).Nodup)
    (h : (ds ++ d :: es).map className? = (before ++ name :: after).map some) :
    ds.map className? = before.map some ∧ es.map className? = after.map some := by
  obtain ⟨hname, -⟩ := List.nodup_cons.1 (List.nodup_middle.1 hnodup)
  obtain ⟨hbefore, hafter⟩ := not_or.1 (List.mem_append.not.1 hname)
  have hnot {names : List Text} (hnames : name ∉ names) : some name ∉ names.map some := by
    simpa using hnames
  rw [List.map_append, List.map_cons, List.map_append, List.map_cons, hd] at h
  obtain ⟨hds, -, hes⟩ :=
    (List.append_cons_inj_of_notMem (hnot hbefore) (hnot hafter)).1 h.symm
  exact ⟨hds.symm, hes.symm⟩

/-- New names between the old ones. -/
theorem nodup_splice {name : Text} {before added after : List Text}
    (hold : (before ++ name :: after).Nodup) (hadded : added.Nodup)
    (hnew : ∀ n ∈ before ++ name :: after, n ∉ added) :
    (before ++ name :: (added ++ after)).Nodup := by
  have hperm : (before ++ [name] ++ (added ++ after)).Perm
      (added ++ (before ++ [name] ++ after)) := List.perm_append_comm_assoc _ _ _
  simp only [List.append_assoc, List.singleton_append] at hperm
  refine hperm.nodup_iff.2 (hadded.append hold ?_)
  intro n hn hmem
  exact hnew n hmem hn

namespace ClassFile

/-- Patching the empty class keeps the agreement, unless the generic interface is its superclass. -/
theorem agrees_patchEmpty {l : Layout} (hl : l.BracketFree) {c patched : ClassFile}
    {superclass : Descriptor} (hc : c.Agrees superclass)
    (hsuperclass : superclass.className? ≠ some l.baseInterfaceName) {bridges : List Method}
    (h : c.patchEmpty l bridges = .ok patched) : patched.Agrees superclass := by
  obtain ⟨s, typeParams, interfaces, hs, hread, hnames, hnodup⟩ := hc
  obtain ⟨s₁, s', hadd, hspliced⟩ := spliced_patchEmpty h
  obtain ⟨hfirst, hfirst'⟩ := hspliced.signature
  obtain rfl : s = s₁ := Option.some.inj (hs.symm.trans hfirst)
  obtain ⟨parsed, before, after, hparsed, hsupertypes, -, rfl⟩ :=
    SignatureText.addInterfaces_eq_ok hadd
  obtain rfl : ⟨typeParams, superclass :: interfaces⟩ = parsed :=
    Except.ok.inj (hread.symm.trans hparsed)
  -- the generic interface is not the superclass
  cases before with
  | nil =>
    obtain ⟨rfl, -⟩ := List.cons.inj hsupertypes
    exact absurd (Layout.className?_baseInterfaceSegment hl) hsuperclass
  | cons d before =>
    obtain ⟨rfl, rfl⟩ := List.cons.inj hsupertypes
    obtain ⟨firsts, lasts, hold, -, hnew⟩ := hspliced.interfaces
    have hdeclared : c.interfaces = firsts ++ l.baseInterfaceName :: lasts := hold
    have hpatched : patched.interfaces =
        firsts ++ l.baseInterfaceName :: (l.interfaces ++ lasts) := hnew
    have habsent := checkInterfaces_eq_ok (patchEmpty_eq_ok h).2.1
    have hsegment := Layout.className?_baseInterfaceSegment hl
    rw [hdeclared] at hnames hnodup habsent
    obtain ⟨hbefore, hafter⟩ := className?_splice hsegment hnodup hnames
    have hadded : (l.interfaces.map Descriptor.object).map className? = l.interfaces.map some := by
      rw [List.map_map]
      refine List.map_congr_left fun name hname => ?_
      obtain ⟨p, -, rfl⟩ := List.mem_map.1 hname
      exact className?_object (hl.interface p)
    obtain ⟨-, hwellFormed⟩ := ClassSignature.parse_eq_ok_iff.1 hread
    refine ⟨_, typeParams, before ++ ⟨l.baseInterfaceSegment⟩ ::
      (l.interfaces.map .object ++ after), hfirst', ?_, ?_, ?_⟩
    · refine ClassSignature.parse_eq_ok_iff.2 ⟨rfl, hwellFormed.typeParams, ?_,
        List.cons_ne_nil _ _⟩
      obtain ⟨hsuper, hrest⟩ := List.forall_mem_cons.1 hwellFormed.supertypes
      obtain ⟨hbefore, hbase, hafter⟩ := forall_mem_splice.1 hrest
      refine List.forall_mem_cons.2 ⟨hsuper, forall_mem_splice.2 ⟨hbefore, hbase, ?_⟩⟩
      refine List.forall_mem_append.2 ⟨?_, hafter⟩
      intro d hd
      obtain ⟨name, hname, rfl⟩ := List.mem_map.1 hd
      obtain ⟨p, -, rfl⟩ := List.mem_map.1 hname
      exact isToken_object (hl.interface p)
    · rw [hpatched]
      simp only [List.map_append, List.map_cons, hbefore, hafter, hsegment, hadded]
    · rw [hpatched]
      exact nodup_splice hnodup l.nodup_interfaces habsent

/-- The signature stands before the interfaces that it lists, and the generic one is between
others. -/
def listedClass : ClassFile :=
  ⟨[.signature ⟨"<T:>LA;LB<TT;>;Lme/dkleszyk/java/option/Option<TT;>;LC;".toList, some .double⟩,
    .implements "B".toList, .implements Layout.default.baseInterfaceName, .implements "C".toList]⟩

theorem agrees_patchEmpty_listed : Layout.default.BracketFree ∧
    listedClass.Agrees ⟨"LA;".toList⟩ ∧
    Descriptor.className? ⟨"LA;".toList⟩ ≠ some Layout.default.baseInterfaceName ∧
    ∃ patched, listedClass.patchEmpty .default [] = .ok patched ∧
      patched.Agrees ⟨"LA;".toList⟩ := by
  have hl : Layout.default.BracketFree := by
    simp only [Layout.BracketFree, Text.BracketFree]
    decide +kernel
  have hc : listedClass.Agrees ⟨"LA;".toList⟩ :=
    ⟨_, [⟨"T".toList, none, []⟩],
      [⟨"LB<TT;>;".toList⟩, ⟨Layout.default.baseInterfaceSegment⟩, ⟨"LC;".toList⟩], rfl,
      by decide +kernel, by decide +kernel, by decide +kernel⟩
  have hsuperclass : Descriptor.className? ⟨"LA;".toList⟩ ≠
      some Layout.default.baseInterfaceName := by decide +kernel
  obtain ⟨patched, hpatched⟩ :=
    exists_ok_of_isOk (x := listedClass.patchEmpty .default []) (by decide +kernel)
  exact ⟨hl, hc, hsuperclass, patched, hpatched, agrees_patchEmpty hl hc hsuperclass hpatched⟩

end ClassFile

end ErasedBridges
