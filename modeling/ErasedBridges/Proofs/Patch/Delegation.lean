import ErasedBridges.Patch.CastElimination
import ErasedBridges.Proofs.Bridge.Synthesis
import ErasedBridges.Proofs.ClassFile.Printed
import ErasedBridges.Proofs.FirstMatch

/-!
# Which casts can be eliminated, and what changes then

The bridge and its implementation have to be the only methods of their kind, with a cast, a line
and an argument to take over. Then the code of the bridge becomes that of the implementation but
for one line number and one descriptor, and nothing else changes.
-/

namespace ErasedBridges

/-! ### Tables -/

namespace CodeItem

theorem lineNumbers?_eq_some {i : CodeItem} {es : List LineEntry} :
    i.lineNumbers? = some es ↔ i = .lineNumbers es := by
  cases i <;> simp [lineNumbers?]

theorem localVariables?_eq_some {i : CodeItem} {es : List VariableEntry} :
    i.localVariables? = some es ↔ i = .localVariables es := by
  cases i <;> simp [localVariables?]

variable {ε : Type} {table : List ε → CodeItem} {entries? : CodeItem → Option (List ε)}
  {p : ε → Prop} {change : ε → ε} {items items' : List CodeItem}

/-- In the first table of a kind, the first entry with `p` is changed. Nothing else is. -/
def ChangesEntry (table : List ε → CodeItem) (p : ε → Prop) (change : ε → ε)
    (items items' : List CodeItem) : Prop :=
  ∃ es es' e, ReplacesFirst (fun i => ∃ es, i = table es) (table es) (table es') items items' ∧
    ReplacesFirst p e (change e) es es'

theorem ChangesEntry.filterMap_eq {β : Type} {f : CodeItem → Option β}
    (h : ChangesEntry table p change items items') (hf : ∀ es, f (table es) = none) :
    items.filterMap f = items'.filterMap f := by
  obtain ⟨es, es', e, hitems, -⟩ := h
  exact hitems.filterMap_eq ((hf es).trans (hf es').symm)

theorem exists_changesEntry_iff (htable : ∀ {i es}, entries? i = some es ↔ i = table es) :
    (∃ items', ChangesEntry table p change items items') ↔
      ∃ es, items.findSome? entries? = some es ∧ ∃ e ∈ es, p e := by
  constructor
  · rintro ⟨items', es, es', e, hitems, hes⟩
    exact ⟨es, (hitems.findSome?_eq htable).1, e, hes.mem, hes.hit⟩
  · rintro ⟨es, hfirst, hentry⟩
    obtain ⟨e, es', hes⟩ := (exists_replacesFirst_iff (f := change)).2 hentry
    obtain ⟨items', hitems⟩ := exists_replacesFirst_of_findSome? htable hfirst es'
    exact ⟨items', es, es', e, hitems, hes⟩

/-- The change as a search for the table and then for the entry in it. -/
def entryChanged? (table : List ε → CodeItem) (entries? : CodeItem → Option (List ε))
    (p : ε → Prop) [DecidablePred p] (change : ε → ε) (items : List CodeItem) :
    Option (List CodeItem) := do
  let (before, i, after) ← splitAtFirst? (fun i => (entries? i).isSome) items
  let es ← entries? i
  let es' ← modifyFirst? (fun e => if p e then some (change e) else none) es
  return before ++ table es' :: after

theorem entryChanged?_eq_some_iff (htable : ∀ {i es}, entries? i = some es ↔ i = table es)
    [DecidablePred p] :
    entryChanged? table entries? p change items = some items' ↔
      ChangesEntry table p change items items' := by
  simp only [entryChanged?, Option.bind_eq_bind, Option.bind_eq_some_iff]
  constructor
  · rintro ⟨⟨before, i, after⟩, hsplit, es, hi, es', hmodify, h⟩
    cases h
    obtain rfl := htable.1 hi
    obtain ⟨e, hes⟩ := modifyFirst?_ite_eq_some_iff.1 hmodify
    exact ⟨es, es', e, (replacesFirst_congr (isKind_iff htable)).2
      (replacesFirst_iff_splitAtFirst?.2 ⟨before, after, hsplit, rfl⟩), hes⟩
  · rintro ⟨es, es', e, hitems, hes⟩
    obtain ⟨before, after, hsplit, rfl⟩ := replacesFirst_iff_splitAtFirst?.1
      ((replacesFirst_congr (isKind_iff htable)).1 hitems)
    exact ⟨(before, table es, after), hsplit, es, htable.2 rfl, es',
      modifyFirst?_ite_eq_some_iff.2 ⟨e, hes⟩, rfl⟩

end CodeItem

namespace Code

open CodeItem

variable {line : Nat} {type : Text} {c c' : Code}

/-- The code with another line at its first label and another type of its first argument. -/
structure Retargets (line : Nat) (type : Text) (c c' : Code) : Prop where
  stack : c'.stack = c.stack
  locals : c'.locals = c.locals
  items : ∃ items,
    ChangesEntry .lineNumbers (·.label = firstLabel) ({ · with line }) c.items items ∧
    ChangesEntry .localVariables (·.index = 1) ({ · with descriptor := type }) items c'.items

theorem withFirstLine?_eq_some_iff :
    c.withFirstLine? line = some c' ↔ ∃ items,
      ChangesEntry .lineNumbers (·.label = firstLabel) ({ · with line }) c.items items ∧
      { c with items } = c' := by
  have hmap : c.withFirstLine? line = (entryChanged? .lineNumbers CodeItem.lineNumbers?
      (·.label = firstLabel) ({ · with line }) c.items).map ({ c with items := · }) := by
    simp [withFirstLine?, entryChanged?, Option.map_bind]
  simp only [hmap, Option.map_eq_some_iff, entryChanged?_eq_some_iff lineNumbers?_eq_some]

theorem withArgumentType?_eq_some_iff :
    c.withArgumentType? type = some c' ↔ ∃ items,
      ChangesEntry .localVariables (·.index = 1) ({ · with descriptor := type }) c.items items ∧
      { c with items } = c' := by
  have hmap : c.withArgumentType? type = (entryChanged? .localVariables CodeItem.localVariables?
      (·.index = 1) ({ · with descriptor := type }) c.items).map ({ c with items := · }) := by
    simp [withArgumentType?, entryChanged?, Option.map_bind]
  simp only [hmap, Option.map_eq_some_iff, entryChanged?_eq_some_iff localVariables?_eq_some]

theorem retargets_iff : c.Retargets line type c' ↔
    ∃ renumbered, c.withFirstLine? line = some renumbered ∧
      renumbered.withArgumentType? type = some c' := by
  simp only [withFirstLine?_eq_some_iff, withArgumentType?_eq_some_iff]
  constructor
  · rintro ⟨hstack, hlocals, items, hlines, hvariables⟩
    refine ⟨_, ⟨items, hlines, rfl⟩, c'.items, hvariables, ?_⟩
    rw [← hstack, ← hlocals]
  · rintro ⟨_, ⟨items, hlines, rfl⟩, items', hvariables, rfl⟩
    exact ⟨rfl, rfl, items, hlines, hvariables⟩

/-- The two tables do not get into each other's way. -/
theorem exists_retargets_iff : (∃ c', c.Retargets line type c') ↔
    (∃ es, c.lineNumbers? = some es ∧ ∃ e ∈ es, e.label = firstLabel) ∧
      ∃ es, c.localVariables? = some es ∧ ∃ e ∈ es, e.index = 1 := by
  have hsame {items : List CodeItem} (h : ChangesEntry .lineNumbers (·.label = firstLabel)
      ({ · with line }) c.items items) :
      c.localVariables? = items.findSome? CodeItem.localVariables? := by
    rw [localVariables?, ← List.head?_filterMap, ← List.head?_filterMap,
      h.filterMap_eq fun _ => rfl]
  constructor
  · rintro ⟨c', -, -, items, hlines, hvariables⟩
    refine ⟨(exists_changesEntry_iff lineNumbers?_eq_some).1 ⟨items, hlines⟩, ?_⟩
    rw [hsame hlines]
    exact (exists_changesEntry_iff localVariables?_eq_some).1 ⟨c'.items, hvariables⟩
  · rintro ⟨hlabel, hlocal⟩
    obtain ⟨items, hlines⟩ := (exists_changesEntry_iff lineNumbers?_eq_some).2 hlabel
    rw [hsame hlines] at hlocal
    obtain ⟨items', hvariables⟩ := (exists_changesEntry_iff localVariables?_eq_some).2 hlocal
    exact ⟨⟨c.stack, c.locals, items'⟩, rfl, rfl, items, hlines, hvariables⟩

theorem firstLine?_eq_some_iff :
    c.firstLine? = some line ↔ ∃ es e, c.lineNumbers? = some es ∧
      es.find? (·.label = firstLabel) = some e ∧ e.line = line := by
  simp only [firstLine?, Option.bind_eq_some_iff, Option.map_eq_some_iff]
  simp only [exists_and_left]

theorem hasCast_iff :
    c.hasCast = true ↔ ∃ i ∈ c.instructions, "checkcast ".toList <+: i.text := by
  simp [hasCast, Text.startsWith]

end Code

/-! ### Methods -/

namespace Method

theorem code?_eq_some {a : Attribute} {code : Code} : a.code? = some code ↔ a = .code code := by
  cases a <;> simp [Attribute.code?]

/-- The first code of the method gives way to another. -/
def ReplacesCode (old code : Code) (m m' : Method) : Prop :=
  ∃ attributes, ReplacesFirst (fun a => ∃ code, a = .code code) (.code old) (.code code)
    m.attributes attributes ∧ m' = { m with attributes }

theorem withCode_eq_some_iff {m m' : Method} {code : Code} :
    m.withCode code = some m' ↔ ∃ old, m.ReplacesCode old code m' := by
  simp only [withCode, Option.map_eq_some_iff, modifyFirst?_map_eq_some_iff code?_eq_some]
  constructor
  · rintro ⟨attributes, ⟨old, h⟩, rfl⟩
    exact ⟨old, attributes, h, rfl⟩
  · rintro ⟨old, attributes, h, rfl⟩
    exact ⟨attributes, ⟨old, h⟩, rfl⟩

theorem ReplacesCode.code?_eq {m m' : Method} {old code : Code} (h : m.ReplacesCode old code m') :
    m.code? = some old ∧ m'.code? = some code := by
  obtain ⟨attributes, h, rfl⟩ := h
  exact h.findSome?_eq code?_eq_some

theorem exists_replacesCode {m : Method} {old : Code} (h : m.code? = some old) (code : Code) :
    ∃ m', m.ReplacesCode old code m' := by
  obtain ⟨attributes, h⟩ := exists_replacesFirst_of_findSome? code?_eq_some h code
  exact ⟨_, attributes, h, rfl⟩

theorem ofRole_bridge (name : Text) :
    ofRole .bridge name = fun m => decide (m.name = name ∧ m.isBridge = true) := by
  funext m
  exact Bool.eq_iff_iff.2 (by simp [ofRole])

theorem ofRole_implementation (name : Text) :
    ofRole .implementation name = fun m => decide (m.name = name ∧ m.isBridge = false) := by
  have hrole : (CastRole.implementation == CastRole.bridge) = false := rfl
  funext m
  exact Bool.eq_iff_iff.2 (by simp [ofRole, hrole])

end Method

namespace ClassFile

/-! ### Classes -/

theorem filter_methods_eq_nil_iff {f : Method → Bool} {items : List ClassItem} :
    (items.filterMap ClassItem.method?).filter f = [] ↔
      ∀ i ∈ items, i.method?.any f = false := by
  rw [List.filter_eq_nil_iff, List.forall_mem_filterMap]
  refine forall₂_congr fun i _ => ?_
  cases i.method? <;> simp

theorem filter_methods_eq {f : Method → Bool} {c : ClassFile} {before after : List ClassItem}
    {m : Method} (hitems : c.items = before ++ .method m :: after) (hm : f m = true) :
    c.methods.filter f = (before.filterMap ClassItem.method?).filter f ++
      m :: (after.filterMap ClassItem.method?).filter f := by
  rw [methods, hitems, List.filterMap_append, List.filter_append,
    List.filterMap_cons_some (show (ClassItem.method m).method? = some m from rfl),
    List.filter_cons_of_pos hm]

theorem findRole_eq_ok_iff {role : CastRole} {name : Text} {c : ClassFile}
    {before after : List ClassItem} {m : Method} :
    c.findRole role name = .ok (before, m, after) ↔
      c.items = before ++ .method m :: after ∧ c.methods.filter (·.ofRole role name) = [m] := by
  rw [findRole]
  constructor
  · intro h
    split at h
    · next hsplit =>
      split at h
      · cases h
      · next hrest =>
        cases h
        obtain ⟨hitems, hm, hbefore⟩ := splitAtFirst?_eq_some_iff.1 hsplit
        refine ⟨hitems, ?_⟩
        rw [filter_methods_eq hitems hm, filter_methods_eq_nil_iff.2 hbefore,
          filter_methods_eq_nil_iff.2 (by simpa using hrest)]
        rfl
    · cases h
  · rintro ⟨hitems, hfilter⟩
    have hm : m.ofRole role name = true := by
      have hmem : m ∈ c.methods.filter (·.ofRole role name) := hfilter ▸ List.mem_cons_self
      exact (List.mem_filter.1 hmem).2
    rw [filter_methods_eq hitems hm, List.append_eq_singleton_iff] at hfilter
    obtain ⟨hbefore, hafter⟩ | ⟨-, hafter⟩ := hfilter
    · have hbefore := filter_methods_eq_nil_iff.1 hbefore
      have hafter := filter_methods_eq_nil_iff.1 (List.cons.inj hafter).2
      rw [splitAtFirst?_eq_some_iff.2 ⟨hitems, hm, hbefore⟩]
      exact if_neg (by simpa using hafter)
    · cases hafter

theorem delegateCode_eq_ok_iff {c : ClassFile} {name : Text} {bridge implementation : Method}
    {code' : Code} :
    c.delegateCode name bridge implementation = .ok code' ↔
      ∃ bridgeCode line erased argument code, bridge.code? = some bridgeCode ∧
        bridgeCode.hasCast = true ∧ bridgeCode.firstLine? = some line ∧
        bridge.parsedDescriptor = .ok erased ∧ erased.params.head? = some argument ∧
        implementation.code? = some code ∧ code.Retargets line argument.text code' := by
  unfold delegateCode
  extract_lets missing
  -- what is missing is an error, so a step succeeds exactly if there is something
  have hmissing {α : Type} {fault : LocationFault} {x : Option α} {a : α} :
      missing fault x = .ok a ↔ x = some a := by
    cases x with
    | none => exact ⟨nofun, nofun⟩
    | some b => exact ⟨fun h => congrArg some (Except.ok.inj h), by rintro ⟨⟩; rfl⟩
  have hcast {code : Code} :
      (if code.hasCast then some () else none) = some () ↔ code.hasCast = true := by simp
  simp only [bind_eq_ok, hmissing, PatchError.ofRead_eq_ok, Code.retargets_iff]
  constructor
  · rintro ⟨bridgeCode, hbridge, ⟨⟩, hhas, line, hline, erased, herased, argument, hargument, code,
      hcode, renumbered, hretargets⟩
    exact ⟨bridgeCode, line, erased, argument, code, hbridge, hcast.1 hhas, hline, herased,
      hargument, hcode, renumbered, hretargets⟩
  · rintro ⟨bridgeCode, line, erased, argument, code, hbridge, hhas, hline, herased, hargument,
      hcode, renumbered, hretargets⟩
    exact ⟨bridgeCode, hbridge, (), hcast.2 hhas, line, hline, erased, herased, argument, hargument,
      code, hcode, renumbered, hretargets⟩

/-- The bridge of the name and its implementation are the only ones, the bridge has a cast, and
there are a line and an argument type to take over and entries for them. -/
structure Delegable (c : ClassFile) (name : Text) (bridge implementation : Method)
    (bridgeCode code : Code) : Prop where
  onlyBridge : c.methods.filter (fun m => m.name = name ∧ m.isBridge = true) = [bridge]
  onlyImplementation : c.methods.filter (fun m => m.name = name ∧ m.isBridge = false) =
    [implementation]
  bridged : bridge.code? = some bridgeCode
  cast : ∃ i ∈ bridgeCode.instructions, "checkcast ".toList <+: i.text
  bridgeLine : ∃ es, bridgeCode.lineNumbers? = some es ∧ ∃ e ∈ es, e.label = Code.firstLabel
  argument : ∃ d, MethodDescriptor.parse bridge.descriptor = .ok d ∧ d.params ≠ []
  implemented : implementation.code? = some code
  line : ∃ es, code.lineNumbers? = some es ∧ ∃ e ∈ es, e.label = Code.firstLabel
  firstLocal : ∃ es, code.localVariables? = some es ∧ ∃ e ∈ es, e.index = 1

/-- The first code of the bridge gives way to that of the implementation, with the bridge's line
and the type of its argument. Nothing else changes. -/
inductive Delegated (c : ClassFile) (bridge : Method) (bridgeCode code : Code) (p : ClassFile) :
    Prop
  | intro {es : List LineEntry} {e : LineEntry} {argument : Descriptor} {rest : List Descriptor}
    {returnType : Descriptor} {code' : Code} {bridge' : Method} {before after : List ClassItem}
    (table : bridgeCode.lineNumbers? = some es)
    (entry : es.find? (·.label = Code.firstLabel) = some e)
    (descriptor : MethodDescriptor.parse bridge.descriptor = .ok ⟨argument :: rest, returnType⟩)
    (retargets : code.Retargets e.line argument.text code')
    (replaces : bridge.ReplacesCode bridgeCode code' bridge')
    (items : c.items = before ++ .method bridge :: after)
    (items' : p.items = before ++ .method bridge' :: after)

variable {c p : ClassFile} {name : Text} {bridge implementation : Method} {bridgeCode code : Code}

theorem exists_findRole {role : CastRole} {m : Method}
    (h : c.methods.filter (·.ofRole role name) = [m]) :
    ∃ before after, c.findRole role name = .ok (before, m, after) := by
  have hmem : m ∈ c.methods.filter (·.ofRole role name) := h ▸ List.mem_cons_self
  obtain ⟨before, after, hitems⟩ :=
    List.append_of_mem (mem_methods.1 (List.mem_filter.1 hmem).1)
  exact ⟨before, after, findRole_eq_ok_iff.2 ⟨hitems, h⟩⟩

theorem exists_delegated_of_eliminateCast (h : c.eliminateCast name = .ok p) :
    ∃ bridge implementation bridgeCode code,
      c.Delegable name bridge implementation bridgeCode code ∧
        c.Delegated bridge bridgeCode code p := by
  obtain ⟨⟨before, bridge, after⟩, hbridge, h⟩ := bind_eq_ok.1 h
  obtain ⟨⟨_, implementation, _⟩, himplementation, h⟩ := bind_eq_ok.1 h
  obtain ⟨code', hcode', h⟩ := bind_eq_ok.1 h
  obtain ⟨hitems, honly⟩ := findRole_eq_ok_iff.1 hbridge
  obtain ⟨-, honly'⟩ := findRole_eq_ok_iff.1 himplementation
  obtain ⟨bridgeCode, line, ⟨params, returnType⟩, argument, code, hbridged, hcast, hline, herased,
    hargument, himplemented, hretargets⟩ := delegateCode_eq_ok_iff.1 hcode'
  obtain ⟨rest, rfl⟩ := List.head?_eq_some_iff.1 hargument
  obtain ⟨es, e, hes, he, rfl⟩ := Code.firstLine?_eq_some_iff.1 hline
  have hlabel : e.label = Code.firstLabel := by simpa using List.find?_some he
  obtain ⟨hlabelled, hlocal⟩ := Code.exists_retargets_iff.1 ⟨code', hretargets⟩
  rw [Method.ofRole_bridge] at honly
  rw [Method.ofRole_implementation] at honly'
  split at h
  · next bridge' hbridge' =>
    cases h
    obtain ⟨old, hreplaces⟩ := Method.withCode_eq_some_iff.1 hbridge'
    obtain rfl : bridgeCode = old := Option.some.inj (hbridged.symm.trans hreplaces.code?_eq.1)
    exact ⟨bridge, implementation, bridgeCode, code, ⟨honly, honly', hbridged,
      Code.hasCast_iff.1 hcast, ⟨es, hes, e, List.mem_of_find?_eq_some he, hlabel⟩,
      ⟨_, herased, List.cons_ne_nil _ _⟩, himplemented, hlabelled, hlocal⟩,
      .intro hes he herased hretargets hreplaces hitems rfl⟩
  · cases h

theorem Delegable.eliminateCast (h : c.Delegable name bridge implementation bridgeCode code)
    (hp : c.Delegated bridge bridgeCode code p) : c.eliminateCast name = .ok p := by
  obtain @⟨es, e, argument, rest, returnType, code', bridge', before, after, hes, he, hdescriptor,
    hretargets, hreplaces, hitems, hitems'⟩ := hp
  have hbridge := findRole_eq_ok_iff.2 ⟨hitems, Method.ofRole_bridge name ▸ h.onlyBridge⟩
  obtain ⟨_, _, himplementation⟩ :=
    exists_findRole (Method.ofRole_implementation name ▸ h.onlyImplementation)
  have hcode' : c.delegateCode name bridge implementation = .ok code' :=
    delegateCode_eq_ok_iff.2 ⟨bridgeCode, e.line, _, argument, code, h.bridged,
      Code.hasCast_iff.2 h.cast, Code.firstLine?_eq_some_iff.2 ⟨es, e, hes, he, rfl⟩,
      hdescriptor, rfl, h.implemented, hretargets⟩
  refine bind_eq_ok.2 ⟨_, hbridge, bind_eq_ok.2 ⟨_, himplementation,
    bind_eq_ok.2 ⟨_, hcode', ?_⟩⟩⟩
  rw [Method.withCode_eq_some_iff.2 ⟨bridgeCode, hreplaces⟩]
  exact congrArg (fun items => Except.ok (ClassFile.mk items)) hitems'.symm

theorem Delegable.exists_delegated (h : c.Delegable name bridge implementation bridgeCode code) :
    ∃ p, c.Delegated bridge bridgeCode code p := by
  obtain ⟨es, hes, e, hmem, hlabel⟩ := h.bridgeLine
  obtain ⟨first, hfirst⟩ : ∃ first, es.find? (·.label = Code.firstLabel) = some first :=
    Option.isSome_iff_exists.1 (List.find?_isSome.2 ⟨e, hmem, by simpa using hlabel⟩)
  obtain ⟨⟨params, returnType⟩, hdescriptor, hparams⟩ := h.argument
  obtain ⟨argument, rest, rfl⟩ := List.exists_cons_of_ne_nil hparams
  obtain ⟨code', hretargets⟩ := Code.exists_retargets_iff.2 ⟨h.line, h.firstLocal⟩
  obtain ⟨bridge', hreplaces⟩ := Method.exists_replacesCode h.bridged code'
  obtain ⟨before, after, hbridge⟩ := exists_findRole (Method.ofRole_bridge name ▸ h.onlyBridge)
  exact ⟨⟨before ++ .method bridge' :: after⟩, .intro hes hfirst hdescriptor hretargets hreplaces
    (findRole_eq_ok_iff.1 hbridge).1 rfl⟩

/-- A cast is eliminated exactly if the bridge can delegate, and then the class differs in the first
code of the bridge only. -/
theorem eliminateCast_iff_delegable (c : ClassFile) (name : Text) :
    ((∃ p, c.eliminateCast name = .ok p) ↔ ∃ bridge implementation bridgeCode code,
      c.Delegable name bridge implementation bridgeCode code) ∧
    ∀ p, c.eliminateCast name = .ok p ↔ ∃ bridge implementation bridgeCode code,
      c.Delegable name bridge implementation bridgeCode code ∧
        c.Delegated bridge bridgeCode code p := by
  refine ⟨⟨?_, ?_⟩, fun p => ⟨exists_delegated_of_eliminateCast, ?_⟩⟩
  · rintro ⟨p, h⟩
    obtain ⟨bridge, implementation, bridgeCode, code, hdelegable, -⟩ :=
      exists_delegated_of_eliminateCast h
    exact ⟨bridge, implementation, bridgeCode, code, hdelegable⟩
  · rintro ⟨bridge, implementation, bridgeCode, code, hdelegable⟩
    obtain ⟨p, hdelegated⟩ := hdelegable.exists_delegated
    exact ⟨p, hdelegable.eliminateCast hdelegated⟩
  · rintro ⟨bridge, implementation, bridgeCode, code, hdelegable, hdelegated⟩
    exact hdelegable.eliminateCast hdelegated

/-! A class where every table and every code stands twice. -/

def doubledCode (line : Nat) (type : Text) : Code :=
  ⟨1, 2, [.localVariables [⟨0, "this".toList, "LN;".toList, "L0".toList, "L1".toList⟩,
      ⟨1, "value".toList, type, "L0".toList, "L1".toList⟩,
      ⟨1, "value".toList, "LC;".toList, "L1".toList, "L1".toList⟩],
    .localVariables [⟨1, "value".toList, "LC;".toList, "L0".toList, "L1".toList⟩],
    .instruction ⟨"L0".toList, "aload_1".toList⟩,
    .lineNumbers [⟨"L1".toList, 6⟩, ⟨"L0".toList, line⟩, ⟨"L0".toList, 8⟩],
    .lineNumbers [⟨"L0".toList, 7⟩]]⟩

def castingCode : Code :=
  ⟨1, 2, [.instruction ⟨"L0".toList, "aload_1".toList⟩,
    .instruction ⟨"L1".toList, "checkcast B".toList⟩,
    .lineNumbers [⟨"L1".toList, 2⟩, ⟨"L0".toList, 3⟩, ⟨"L0".toList, 4⟩],
    .lineNumbers [⟨"L0".toList, 5⟩]]⟩

/-- With this code of the bridge, before its other code. -/
def doubledClass (code : Code) : ClassFile :=
  ⟨[.raw ".class N".toList,
    .method ⟨["bridge".toList], "f".toList, "(LA;I)LA;".toList,
      [.raw ".deprecated".toList, .code code, .code castingCode]⟩,
    .method ⟨[], "f".toList, "(LB;I)LA;".toList,
      [.code (doubledCode 9 "LB;".toList), .code castingCode]⟩]⟩

theorem delegable_doubledClass :
    (doubledClass castingCode).eliminateCast "f".toList =
        .ok (doubledClass (doubledCode 3 "LA;".toList)) ∧
      ∃ bridge implementation bridgeCode code,
        (doubledClass castingCode).Delegable "f".toList bridge implementation bridgeCode code ∧
          (doubledClass castingCode).Delegated bridge bridgeCode code
            (doubledClass (doubledCode 3 "LA;".toList)) := by
  have h : (doubledClass castingCode).eliminateCast "f".toList =
      .ok (doubledClass (doubledCode 3 "LA;".toList)) := by decide +kernel
  exact ⟨h, ((eliminateCast_iff_delegable _ _).2 _).1 h⟩

end ClassFile

end ErasedBridges
