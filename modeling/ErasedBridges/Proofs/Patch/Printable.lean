import ErasedBridges.Proofs.Bridge.Printable
import ErasedBridges.Proofs.Patch.CastElimination
import ErasedBridges.Proofs.Patch.EmptyVariant

/-!
# Patched classes are read again

`Patched` lists what patching can make of a class, one step after the other. Each step keeps the
class printable, so whatever a sequence of steps gives is read again from its printed text.
-/

namespace ErasedBridges

open Text

/-! ### Signatures -/

/-- It begins with a bracket or a type, and so not with a quote. -/
theorem ClassSignature.HasWords.readable_text {s : ClassSignature} (h : s.HasWords IsInk)
    (hne : s.supertypes ≠ []) (hbegins : ∀ d ∈ s.supertypes, d.BeginsToken)
    (quote : Option Quote) : SignatureText.Readable ⟨s.text, quote⟩ := by
  obtain ⟨d, ds, hds⟩ := List.exists_cons_of_ne_nil hne
  have hd : d ∈ s.supertypes := by
    rw [hds]
    exact List.mem_cons_self
  have hhead := head?_text hds (h.supertypes d hd).1
  refine SignatureText.readable_of_isWord ⟨fun he => ?_, h.forall_mem_text fun _ => id⟩ fun q hq => ?_
  · have hnone : s.text.head? = none := List.head?_eq_none_iff.2 he
    rcases hhead with hs | hs
    · rw [hnone] at hs
      cases hs
    · rw [hnone] at hs
      exact (h.supertypes d hd).1 (List.head?_eq_none_iff.1 hs.symm)
  · have hs : s.text.head? = some q.char := hq
    rcases hhead with hopen | hfirst
    · rw [hs] at hopen
      cases q <;> exact absurd hopen (by decide)
    · have hquote := hbegins d hd q.char (hfirst ▸ hs)
      cases q <;> exact absurd hquote (by decide)

namespace SignatureText

/-- The supertypes that were there are tokens, and the new ones are object types. -/
theorem hasWords_addInterfaces {P : Char → Prop} (hP : ∀ c, IsInk c → P c) {l : Layout}
    (hl : l.BlankFree) {className : Text} {s s' : SignatureText} (hs : ∀ c ∈ s.value, P c)
    (h : s.addInterfaces l className = .ok s') :
    ∃ signature : ClassSignature, s' = ⟨signature.text, s.quote⟩ ∧ signature.HasWords P ∧
      signature.supertypes ≠ [] ∧ ∀ d ∈ signature.supertypes, d.BeginsToken := by
  obtain ⟨parsed, before, after, hparsed, hsupertypes, -, rfl⟩ := addInterfaces_eq_ok h
  obtain ⟨-, hwellFormed⟩ := ClassSignature.parse_eq_ok_iff.1 hparsed
  have hparsedWords := ClassSignature.hasWords_of_parse hs hparsed
  have hold : ∀ d ∈ parsed.supertypes, WordOf P d.text ∧ d.BeginsToken := fun d hd =>
    ⟨hparsedWords.supertypes d hd, (hwellFormed.supertypes d hd).beginsToken⟩
  have hadded : ∀ d ∈ l.interfaces.map Descriptor.object, WordOf P d.text ∧ d.BeginsToken := by
    intro d hd
    obtain ⟨name, hname, rfl⟩ := List.mem_map.1 hd
    obtain ⟨p, -, rfl⟩ := List.mem_map.1 hname
    exact ⟨Descriptor.wordOf_object hP ((hl.isWord_interface p).wordOf hP).2,
      Descriptor.beginsToken_object _⟩
  have hnew : ∀ d ∈ before ++ ⟨l.baseInterfaceSegment⟩ :: (l.interfaces.map .object ++ after),
      WordOf P d.text ∧ d.BeginsToken := by
    rw [hsupertypes] at hold
    obtain ⟨hbefore, hbase, hafter⟩ := forall_mem_splice.1 hold
    exact forall_mem_splice.2 ⟨hbefore, hbase, List.forall_mem_append.2 ⟨hadded, hafter⟩⟩
  exact ⟨⟨parsed.typeParams, _⟩, rfl, ⟨hparsedWords.typeParams, fun d hd => (hnew d hd).1⟩,
    by simp, fun d hd => (hnew d hd).2⟩

theorem printable_addInterfaces {l : Layout} (hl : l.BlankFree) {className : Text}
    {s s' : SignatureText} (hs : BlankFree s.value) (h : s.addInterfaces l className = .ok s') :
    (ClassItem.signature s').Printable := by
  obtain ⟨signature, rfl, hwords, hne, hbegins⟩ := hasWords_addInterfaces (fun _ => id) hl hs h
  exact ⟨hwords.readable_text hne hbegins s.quote, hwords.forall_mem_text fun _ => id⟩

end SignatureText

namespace ClassFile

/-! ### Steps -/

theorem Printable.eliminateCast {c patched : ClassFile} (hc : c.Printable) {name : Text}
    (h : c.eliminateCast name = .ok patched) : patched.Printable := by
  obtain ⟨bridge, implementation, bridgeCode, code, hdelegable, @⟨es, e, argument, rest, returnType,
    code', bridge', before, after, hes, he, herased, hretargets, hreplaces, hitems, hitems'⟩⟩ :=
    exists_delegated_of_eliminateCast h
  have himplementation : implementation.Printable := by
    have hmem : implementation ∈ c.methods.filter _ :=
      hdelegable.onlyImplementation ▸ List.mem_cons_self
    exact hc.items _ (mem_methods.1 (List.mem_filter.1 hmem).1)
  have hall := hc.items
  rw [hitems] at hall
  obtain ⟨hbefore, hbridge, hafter⟩ := forall_mem_splice.1 hall
  have hmethod : bridge.Printable := hbridge
  -- the line comes from the bridge's own table and the type from its own descriptor
  have hreadable : code'.Readable IsLine := by
    have hle := Code.le_of_mem_lineNumbers? (hmethod.readable.code? hdelegable.bridged) hes
      (List.mem_of_find?_eq_some he)
    have hword := (MethodDescriptor.wordOf_of_parse hmethod.descriptor herased).1 argument
      List.mem_cons_self
    exact (himplementation.readable.code? hdelegable.implemented).retargets hle hword hretargets
  have hpatched : bridge'.Printable := by
    have hbridgeReadable := hmethod.readable.replacesCode hreadable hreplaces
    obtain ⟨attributes, -, rfl⟩ := hreplaces
    exact ⟨hbridgeReadable, hmethod.splits, hmethod.descriptor⟩
  refine ⟨by simp [hitems'], ?_⟩
  rw [hitems']
  exact forall_mem_splice.2 ⟨hbefore, hpatched, hafter⟩

theorem Printable.patchEmpty {c patched : ClassFile} (hc : c.Printable) {l : Layout}
    (hl : l.BlankFree) {bridges : List Method} (hbridges : ∀ m ∈ bridges, m.Printable)
    (h : c.patchEmpty l bridges = .ok patched) : patched.Printable := by
  refine ⟨List.ne_nil_of_mem (implements_mem_patchEmpty h .boolean), forall_mem_patchEmpty h
    hc.items (fun p => (hl.isWord_interface p).isPhrase) ?_ hbridges fun s s' hs hadd => ?_⟩
  · exact ⟨⟨List.not_mem_nil, nofun⟩, rfl, rfl, rfl⟩
  · have hvalue : s.Readable ∧ BlankFree s.value := hs
    exact SignatureText.printable_addInterfaces hl hvalue.2 hadd

/-! ### Runs -/

/-- What a sequence of successful patches makes of a class. The bridges come from interfaces that
were read plainly, and may be attributed to any line of thirty-two bits. -/
inductive Patched (l : Layout) (c : ClassFile) : ClassFile → Prop where
  | start : Patched l c c
  | eliminateCast {name : Text} {before after : ClassFile} (run : Patched l c before)
      (step : before.eliminateCast name = .ok after) : Patched l c after
  | patchEmpty {interfaces : List ClassFile} {catalog : Catalog} {line : Nat}
      {bridges : List Bridge} {before after : ClassFile} (run : Patched l c before)
      (plain : ∀ i ∈ interfaces, ∃ t, ReadPlainly t i)
      (collect : Catalog.collect l interfaces = .ok catalog) (inRange : line ≤ maxLine)
      (synthesize : Catalog.synthesize ⟨l, line⟩ catalog = .ok bridges)
      (step : before.patchEmpty l (bridges.map Bridge.method) = .ok after) : Patched l c after

theorem Patched.printable {l : Layout} (hl : l.BlankFree) {c patched : ClassFile}
    (hc : c.Printable) (h : Patched l c patched) : patched.Printable := by
  induction h with
  | start => exact hc
  | eliminateCast _ step ih => exact ih.eliminateCast step
  | patchEmpty _ plain collect inRange synthesize step ih =>
    refine ih.patchEmpty hl ?_ step
    exact List.forall_mem_map.2
      (Catalog.method_printable hl inRange plain collect synthesize)

/-- Patching a plainly read class gives classes that are read again exactly. -/
theorem read_printed_of_patched {l : Layout} (hl : l.BlankFree) {t : Text} {c patched : ClassFile}
    (hc : ReadPlainly t c) (h : Patched l c patched) : read patched.printed = .ok patched :=
  (h.printable hl hc.printable).read_printed

/-! A class with a bridge that casts, and an interface that asks for one more. -/

def castLayout : Layout :=
  ⟨[], "O".toList, "N".toList, "S".toList, "I".toList, ⟨"F".toList, "e".toList⟩,
    ⟨"E".toList, "m".toList⟩, "T".toList, "f".toList⟩

def castText : Text :=
  join ['\n'] [".class N".toList, ".implements O".toList, ".method bridge f : (LA;)LA;".toList,
    ".code stack 1 locals 2".toList, "L0: aload_1".toList, "L1: checkcast B".toList,
    ".linenumbertable".toList, "L0 3".toList, ".end linenumbertable".toList, ".end code".toList,
    ".end method".toList, ".method f : (LB;)LA;".toList, ".code stack 1 locals 2".toList,
    "L0: aload_1".toList, ".linenumbertable".toList, "L0 9".toList,
    ".end linenumbertable".toList, ".localvariabletable".toList,
    "1 is value LB; from L0 to L0".toList, ".end localvariabletable".toList,
    ".end code".toList, ".end method".toList, ".signature LA;LO<TT;>;".toList]

def castClass : ClassFile :=
  ⟨[.raw ".class N".toList, .implements "O".toList,
    .method ⟨["bridge".toList], "f".toList, "(LA;)LA;".toList,
      [.code ⟨1, 2, [.instruction ⟨"L0".toList, "aload_1".toList⟩,
        .instruction ⟨"L1".toList, "checkcast B".toList⟩, .lineNumbers [⟨"L0".toList, 3⟩]]⟩]⟩,
    .method ⟨[], "f".toList, "(LB;)LA;".toList,
      [.code ⟨1, 2, [.instruction ⟨"L0".toList, "aload_1".toList⟩, .lineNumbers [⟨"L0".toList, 9⟩],
        .localVariables [⟨1, "value".toList, "LB;".toList, "L0".toList, "L0".toList⟩]]⟩]⟩,
    .signature ⟨"LA;LO<TT;>;".toList, none⟩]⟩

def intText : Text :=
  join ['\n'] [".class IntI".toList, ".method abstract getAsInt : ()I".toList,
    ".end method".toList]

def intInterface : ClassFile :=
  ⟨[.raw ".class IntI".toList, .method ⟨["abstract".toList], "getAsInt".toList, "()I".toList, []⟩]⟩

theorem readPlainly_castText : ReadPlainly castText castClass where
  read := by decide +kernel
  blanks := by decide +kernel
  descriptors := by decide +kernel
  methodSignatures := by decide +kernel
  classSignatures := by decide +kernel
  named := by decide +kernel

theorem readPlainly_intText : ReadPlainly intText intInterface where
  read := by decide +kernel
  blanks := by decide +kernel
  descriptors := by decide +kernel
  methodSignatures := by decide +kernel
  classSignatures := by decide +kernel
  named := by decide +kernel

theorem read_printed_of_patched_cast : castLayout.BlankFree ∧ ReadPlainly castText castClass ∧
    ReadPlainly intText intInterface ∧ ∃ catalog bridges delegated patched,
      Catalog.collect castLayout [intInterface] = .ok catalog ∧
      Catalog.synthesize ⟨castLayout, 7⟩ catalog = .ok bridges ∧
      castClass.eliminateCast "f".toList = .ok delegated ∧
      delegated.patchEmpty castLayout (bridges.map Bridge.method) = .ok patched ∧
      read patched.printed = .ok patched := by
  have hl : castLayout.BlankFree := by
    rw [Layout.BlankFree]
    decide +kernel
  have hall : (do
      let catalog ← Catalog.collect castLayout [intInterface]
      let bridges ← Catalog.synthesize ⟨castLayout, 7⟩ catalog
      let delegated ← castClass.eliminateCast "f".toList
      delegated.patchEmpty castLayout (bridges.map Bridge.method)).isOk = true := by
    decide +kernel
  obtain ⟨patched, h⟩ := exists_ok_of_isOk hall
  obtain ⟨catalog, hcatalog, h⟩ := bind_eq_ok.1 h
  obtain ⟨bridges, hbridges, h⟩ := bind_eq_ok.1 h
  obtain ⟨delegated, hdelegated, hpatched⟩ := bind_eq_ok.1 h
  have hrun : Patched castLayout castClass patched :=
    .patchEmpty (.eliminateCast .start hdelegated)
      (List.forall_mem_singleton.2 ⟨intText, readPlainly_intText⟩) hcatalog (by decide) hbridges
      hpatched
  exact ⟨hl, readPlainly_castText, readPlainly_intText, catalog, bridges, delegated, patched,
    hcatalog, hbridges, hdelegated, hpatched,
    read_printed_of_patched hl readPlainly_castText hrun⟩

end ClassFile

end ErasedBridges
