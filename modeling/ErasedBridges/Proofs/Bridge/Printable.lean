import ErasedBridges.Proofs.Bridge.Pattern
import ErasedBridges.Proofs.ClassFile.Printable
import ErasedBridges.Proofs.Signature.Word

/-!
# Bridges are printable

The bridges of a catalog are printable methods if its interfaces were read plainly and the layout
has no blanks: flags, descriptors, bodies and signatures are all made of words again.
-/

namespace ErasedBridges

open Text

theorem MethodSignature.HasWords.readable_text {s : MethodSignature} (h : s.HasWords IsInk)
    (quote : Option Quote) : SignatureText.Readable ⟨s.text, quote⟩ := by
  have hhead : ∀ q : Quote, s.text.head? ≠ some q.char := by
    intro q
    rcases s.head?_text with hs | hs
    · rw [hs]
      cases q <;> decide
    · rw [hs]
      cases q <;> decide
  have hne : s.text ≠ [] := List.append_ne_nil_of_right_ne_nil _ (List.cons_ne_nil _ _)
  exact SignatureText.readable_of_isWord ⟨hne, h.forall_mem_text fun _ => id⟩ hhead

namespace Declaration

/-- The words of a declaration, with the characters of `P` in its types. -/
structure HasWords (P : Char → Prop) (d : Declaration) : Prop where
  headWords : ∀ w ∈ d.flags ++ [d.name], IsWord w
  params : ∀ type ∈ d.descriptor.params, WordOf P type.text
  returnType : WordOf P d.descriptor.returnType.text
  signature : ∀ s ∈ d.signature, s.HasWords P

/-- What a declaration has of a method that was read plainly. -/
structure Printable (d : Declaration) : Prop where
  headWords : ∀ w ∈ d.flags ++ [d.name], IsWord w
  splits : [':'] ∉ (d.flags ++ [d.name]).tail
  params : ∀ type ∈ d.descriptor.params, type.Named
  returnType : d.descriptor.returnType.Named
  signature : ∀ s ∈ d.signature, s.HasWords IsInk

/-! ### Headers -/

theorem mem_bridgeFlags {covariant : Bool} {flags : List Text} {w : Text}
    (h : w ∈ bridgeFlags covariant flags) :
    w ∈ flags ∨ w = "bridge".toList ∨ w = "synthetic".toList := by
  obtain ⟨flag, hflag, hw⟩ := List.mem_flatMap.1 h
  split at hw
  · split at hw
    · rw [List.mem_pair] at hw
      exact Or.inr hw
    · exact Or.inr (Or.inr (List.mem_singleton.1 hw))
  · rw [List.mem_singleton.1 hw]
    exact Or.inl hflag

theorem isWord_of_mem_bridgeFlags {covariant : Bool} {flags : List Text}
    (hflags : ∀ w ∈ flags, IsWord w) : ∀ w ∈ bridgeFlags covariant flags, IsWord w := by
  intro w hw
  rcases mem_bridgeFlags hw with hw | rfl | rfl
  · exact hflags w hw
  · decide
  · decide

/-- The first word of a header may be a lone colon. New flags bring none behind it. -/
theorem colon_notMem_tail_bridgeFlags (covariant : Bool) {flags : List Text} {name : Text}
    (h : [':'] ∉ (flags ++ [name]).tail) :
    [':'] ∉ (bridgeFlags covariant flags ++ [name]).tail := by
  cases flags with
  | nil => exact h
  | cons flag flags =>
    rw [List.cons_append, List.tail_cons] at h
    have hrest : [':'] ∉ bridgeFlags covariant flags ++ [name] := by
      intro hm
      rcases List.mem_append.1 hm with hm | hm
      · rcases mem_bridgeFlags hm with hm | hm | hm
        · exact h (List.mem_append_left _ hm)
        · exact absurd hm (by decide)
        · exact absurd hm (by decide)
      · exact h (List.mem_append_right _ hm)
    rw [bridgeFlags, List.flatMap_cons, ← bridgeFlags, List.append_assoc]
    split
    · split
      · exact List.not_mem_cons_of_ne_of_not_mem (by decide) hrest
      · exact hrest
    · exact hrest

/-! ### Bodies -/

theorem wordOf_of_mem_bodyLocals {P : Char → Prop} (hP : ∀ c, IsInk c → P c) {l : Layout}
    (hl : l.BlankFree) {thisGeneric : Descriptor} (hthis : WordOf P thisGeneric.text)
    {names : List Text} (hnames : ∀ n ∈ names, IsWord n) {descriptor : MethodDescriptor}
    (hparams : ∀ d ∈ descriptor.params, WordOf P d.text) {signature : Option MethodSignature}
    (hsignature : ∀ s ∈ signature, s.HasWords P) :
    ∀ v ∈ bodyLocals l thisGeneric names descriptor signature,
      WordOf P v.name ∧ WordOf P v.type.text ∧ ∀ g ∈ v.generic, WordOf P g.text := by
  intro v hv
  rcases List.mem_cons.1 hv with rfl | hv
  · have hname : IsWord "this".toList := by decide
    refine ⟨hname.wordOf hP, (Descriptor.isWord_object hl.emptyClassName).wordOf hP, ?_⟩
    rintro g ⟨⟩
    exact hthis
  · obtain ⟨i, hi, rfl⟩ := List.mem_mapIdx.1 hv
    obtain ⟨htype, hname⟩ := List.of_mem_zip (List.getElem_mem hi)
    refine ⟨(hnames _ hname).wordOf hP, hparams _ htype, fun g hg => ?_⟩
    obtain ⟨hgeneric, -⟩ := Option.filter_eq_some_iff.1 hg
    cases signature with
    | none => cases hgeneric
    | some s => exact (hsignature s rfl).params g (List.mem_of_getElem? hgeneric)

/-- At most four parameters are named, so the body is small. -/
theorem readable_body {P : Text → Prop} {l : Layout} (hl : l.BlankFree)
    {descriptor : MethodDescriptor} (hparams : ∀ d ∈ descriptor.params, IsWord d.text)
    (hreturn : descriptor.returnType.Named) {signature : Option MethodSignature}
    (hsignature : ∀ s ∈ signature, s.HasWords IsInk) {pattern : Pattern} {d : Declaration}
    {b : Body} (h : d.body l pattern descriptor signature = .ok b) {line : Nat}
    (hline : line ≤ maxLine) : (b.layOut (some line)).Readable P := by
  obtain ⟨names, thisGeneric, is, hnames, hlength, hthis, his, rfl⟩ := body_eq_ok.1 h
  have hargs : ∀ a ∈ Argument.ofParams descriptor.params, IsWord a.type.text := by
    intro a ha
    refine hparams _ ?_
    rw [← Argument.types_ofParams descriptor.params]
    exact List.mem_map_of_mem ha
  have hcount := Argument.length_ofParams descriptor.params
  obtain ⟨hnamesLength, hwords⟩ := Pattern.isWord_of_parameterNames? hnames
  obtain ⟨before, exit, hemits, rfl⟩ :=
    Pattern.exists_emits hnames (hlength.trans hcount.symm) his
  have hfits := hemits.fits hl hargs hreturn
  have hlocals := wordOf_of_mem_bodyLocals (fun _ => id) hl
    (Descriptor.wordOf_of_parse hl.emptyThisGeneric hthis) hwords hparams hsignature
  -- four parameters give five locals and at most nine instructions
  have hinstructionCount := hfits.length_le
  have hlocalCount : (bodyLocals l thisGeneric names descriptor signature).length =
      descriptor.params.length + 1 :=
    length_bodyLocals hlength
  have hsmall : Body.HasWords (bodyLocals l thisGeneric names descriptor signature)
      (before ++ [exit]) := by
    refine ⟨hfits.hasWords, ?_, fun v hv => (hlocals v hv).1, fun v hv => (hlocals v hv).2.1,
      fun v hv => (hlocals v hv).2.2, ?_⟩
    · rw [maxShort]
      omega
    · rw [hlocalCount, maxShort]
      omega
  exact hsmall.readable_layOut hline

/-! ### Methods -/

theorem Printable.method_bridge {d : Declaration} (hd : d.Printable) {t : Target}
    (ht : t.layout.BlankFree) (hline : t.line ≤ maxLine) {descriptor : MethodDescriptor}
    (hparams : ∀ type ∈ descriptor.params, type.Named) (hreturn : descriptor.returnType.Named)
    {signature : Option MethodSignature} (hsignature : ∀ s ∈ signature, s.HasWords IsInk)
    {pattern : Pattern} {variant : Option Primitive} {b : Bridge}
    (h : d.bridge t pattern variant descriptor signature = .ok b) : b.method.Printable := by
  obtain ⟨body, hbody, rfl⟩ := bridge_eq_ok.1 h
  have hwords : ∀ type ∈ descriptor.params, IsWord type.text := fun type htype =>
    (hparams type htype).isWord
  have htext : BlankFree descriptor.text :=
    MethodDescriptor.forall_mem_text (fun _ => id) hwords hreturn.isWord
  obtain ⟨hflags, hname⟩ := List.forall_mem_append.1 hd.headWords
  have hheader : ∀ w ∈ bridgeFlags (d.isCovariant t.layout) d.flags ++ [d.name], IsWord w :=
    List.forall_mem_append.2 ⟨isWord_of_mem_bridgeFlags hflags, hname⟩
  have hdescriptor : IsWord descriptor.text := ⟨List.cons_ne_nil _ _, htext⟩
  refine ⟨⟨⟨hheader, hdescriptor.isPhrase⟩, ?_⟩, colon_notMem_tail_bridgeFlags _ hd.splits, htext⟩
  intro a ha
  rcases List.mem_cons.1 ha with rfl | ha
  · exact readable_body ht hwords hreturn hsignature hbody hline
  rcases List.mem_append.1 ha with ha | ha
  · split at ha
    · cases ha
    · next hthrows =>
      rw [List.mem_singleton.1 ha]
      exact ⟨fun he => hthrows (List.isEmpty_iff.2 he), Pattern.isWord_of_mem_throws pattern⟩
  · obtain ⟨s, hs, rfl⟩ := Option.map_eq_some_iff.1 (Option.mem_toList.1 ha)
    exact (hsignature s (Option.filter_eq_some_iff.1 hs).1).readable_text d.quote

theorem Printable.method_of_synthesize {d : Declaration} (hd : d.Printable) {t : Target}
    (ht : t.layout.BlankFree) (hline : t.line ≤ maxLine) {pattern : Pattern}
    {block : List Bridge} (h : d.synthesize t pattern = .ok block) {b : Bridge} (hb : b ∈ block) :
    b.method.Printable := by
  rcases exists_bridge_of_mem_synthesize h hb with
    ⟨s, p, descriptor, signature, hs, hdescriptor, hsignature, hbridge⟩ | hbridge
  · obtain ⟨hparams, hreturn⟩ :=
      forall_specializedDescriptor (P := Descriptor.Named) hdescriptor p.named_boxedDescriptor
    refine hd.method_bridge ht hline (hparams hd.params) (hreturn hd.returnType) ?_ hbridge
    rintro _ ⟨⟩
    exact (hd.signature s hs).substitute (fun _ => id) p.named_boxedDescriptor.isWord hsignature
  · exact hd.method_bridge ht hline hd.params hd.returnType hd.signature hbridge

end Declaration

/-! ### Catalogs -/

namespace Method

theorem hasWords_of_parsedSignature {P : Char → Prop} {m : Method}
    (hm : ∀ a ∈ m.attributes, ∀ s ∈ a.signature?, ∀ c ∈ s.value, P c) {s : MethodSignature}
    (h : m.parsedSignature = .ok (some s)) : s.HasWords P := by
  rw [parsedSignature] at h
  split at h
  · cases h
  · next text htext =>
    obtain ⟨s', hs', he⟩ := map_eq_ok.1 h
    cases he
    obtain ⟨a, ha, htext⟩ := List.exists_of_findSome?_eq_some htext
    exact MethodSignature.hasWords_of_parse (hm a ha text htext) hs'

end Method

namespace Declaration

/-- The words of a declaration are those of the method. -/
theorem Declares.hasWords {P : Char → Prop} (hP : ∀ c, IsInk c → P c) {l : Layout}
    {origin : Origin} {m : Method} {d : Declaration} (h : Declares l origin m d)
    (hheader : m.ReadableHeader) (hdescriptor : ∀ c ∈ m.descriptor, P c)
    (hsignatures : ∀ a ∈ m.attributes, ∀ s ∈ a.signature?, ∀ c ∈ s.value, P c) :
    d.HasWords P := by
  have hheadWords : m.headWords = d.flags ++ [d.name] := by
    rw [h.flags, h.name]
    rfl
  obtain ⟨hparams, hreturn⟩ := MethodDescriptor.wordOf_of_parse hdescriptor h.descriptor
  refine ⟨hheadWords ▸ hheader.isWord, hparams, hreturn, fun s hs => ?_⟩
  obtain ⟨read, hread, hrel⟩ := h.signature
  rw [Option.mem_def.1 hs] at hrel
  cases hrel with
  | @some s₀ _ hadapt =>
    have hread := Method.hasWords_of_parsedSignature hsignatures hread
    cases origin with
    | generic =>
      cases hadapt
      exact hread
    | specialized p =>
      exact hread.rename hP (List.forall_mem_singleton.2 (hP _ rfl)) hadapt

theorem Declares.printable {l : Layout} {origin : Origin} {m : Method} {d : Declaration}
    (h : Declares l origin m d) {t : Text} {c : ClassFile} (hc : c.ReadPlainly t)
    (hm : m ∈ c.methods) : d.Printable := by
  have hmethod : m.Printable := hc.printable.items _ (ClassFile.mem_methods.1 hm)
  have hwords : d.HasWords IsInk := h.hasWords (fun _ => id) hmethod.readable.header
    hmethod.descriptor (hc.methodSignatures m hm)
  have hparsed : d.descriptor ∈ m.parsedDescriptor.toOption := by
    rw [h.descriptor]
    rfl
  have hnamed := List.forall_mem_cons.1 (hc.named m hm d.descriptor hparsed)
  have hsplits : [':'] ∉ (d.flags ++ [d.name]).tail := by
    rw [h.flags, h.name]
    exact hmethod.splits
  exact ⟨hwords.headWords, hsplits, fun type htype => ⟨hwords.params type htype,
    hnamed.2 type htype⟩, ⟨hwords.returnType, hnamed.1⟩, hwords.signature⟩

end Declaration

theorem Catalog.method_printable {l : Layout} (hl : l.BlankFree) {line : Nat}
    (hline : line ≤ maxLine) {interfaces : List ClassFile}
    (hinterfaces : ∀ c ∈ interfaces, ∃ t, ClassFile.ReadPlainly t c) {catalog : Catalog}
    (hcatalog : collect l interfaces = .ok catalog) {bridges : List Bridge}
    (h : synthesize ⟨l, line⟩ catalog = .ok bridges) : ∀ b ∈ bridges, b.method.Printable := by
  intro b hb
  obtain ⟨e, he, block, hblock, hmem⟩ := exists_of_mem_synthesize h hb
  obtain ⟨c, hc, origin, -, m, hm, -, hentry⟩ := exists_of_mem_collect hcatalog he
  obtain ⟨t, ht⟩ := hinterfaces c hc
  obtain ⟨d, hdeclares, ⟨-, hnone⟩ | ⟨pattern, -, hsome⟩⟩ := entryOf_eq_ok hentry
  · cases hnone
  · cases hsome
    exact (hdeclares.printable ht hm).method_of_synthesize hl hline hblock hmem

end ErasedBridges
