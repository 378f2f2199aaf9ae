import ErasedBridges.Proofs.Patch.Delegation

/-!
# Eliminating a cast for the second time

The code that a bridge takes over may cast as well. If it does not, the bridge has no cast left in
this code, and a second elimination fails for that. If it does, a second elimination succeeds and
changes nothing.
-/

namespace ErasedBridges

namespace Code

open CodeItem

variable {line : Nat} {type : Text} {c c' : Code}

def CastFree (c : Code) : Prop := ∀ i ∈ c.instructions, ¬ "checkcast ".toList <+: i.text

theorem not_castFree_iff : ¬ c.CastFree ↔ ∃ i ∈ c.instructions, "checkcast ".toList <+: i.text := by
  simp [CastFree]

theorem Retargets.instructions_eq (h : c.Retargets line type c') :
    c'.instructions = c.instructions := by
  obtain ⟨-, -, items, hlines, hvariables⟩ := h
  rw [instructions, instructions, ← hvariables.filterMap_eq fun _ => rfl,
    ← hlines.filterMap_eq fun _ => rfl]

theorem Retargets.castFree_iff (h : c.Retargets line type c') : c'.CastFree ↔ c.CastFree := by
  rw [CastFree, CastFree, h.instructions_eq]

/-- The line that was set is the one that is read. -/
theorem Retargets.exists_firstLine (h : c.Retargets line type c') :
    ∃ es e, c'.lineNumbers? = some es ∧ es.find? (·.label = firstLabel) = some e ∧
      e.line = line := by
  obtain ⟨-, -, items, ⟨es, es', e, hitems, hes⟩, hvariables⟩ := h
  refine ⟨es', { e with line }, ?_, (hes.again hes.hit).find?_eq, rfl⟩
  rw [lineNumbers?, ← List.head?_filterMap, ← hvariables.filterMap_eq fun _ => rfl,
    List.head?_filterMap]
  exact (hitems.findSome?_eq lineNumbers?_eq_some).2

end Code

namespace Method

def codes (m : Method) : List Code := m.attributes.filterMap Attribute.code?

def CastFree (m : Method) : Prop := ∀ code ∈ m.codes, code.CastFree

variable {m m' : Method} {old code : Code}

theorem ReplacesCode.codes_eq (h : m.ReplacesCode old code m') :
    m'.codes = code :: m.codes.tail := by
  obtain ⟨attributes, h, rfl⟩ := h
  exact h.filterMap_kind code?_eq_some

theorem ReplacesCode.again (h : m.ReplacesCode old code m') : m'.ReplacesCode code code m' := by
  obtain ⟨attributes, h, rfl⟩ := h
  exact ⟨attributes, h.again ⟨code, rfl⟩, rfl⟩

theorem ReplacesCode.header_eq (h : m.ReplacesCode old code m') :
    m'.flags = m.flags ∧ m'.name = m.name ∧ m'.descriptor = m.descriptor := by
  obtain ⟨attributes, -, rfl⟩ := h
  exact ⟨rfl, rfl, rfl⟩

end Method

namespace ClassFile

variable {c p : ClassFile} {name : Text} {bridge implementation : Method} {bridgeCode code : Code}

theorem eliminateCast_of_castFree
    (hbridge : c.methods.filter (fun m => m.name = name ∧ m.isBridge = true) = [bridge])
    (himplementation : c.methods.filter (fun m => m.name = name ∧ m.isBridge = false) =
      [implementation])
    (hcode : bridge.code? = some code) (hcast : code.CastFree) :
    c.eliminateCast name =
      .error (.location c.displayName (.bridgeWithoutCast bridge.nameAndType)) := by
  obtain ⟨before, after, hbridge⟩ := exists_findRole (Method.ofRole_bridge name ▸ hbridge)
  obtain ⟨before', after', himplementation⟩ :=
    exists_findRole (Method.ofRole_implementation name ▸ himplementation)
  have hnone : code.hasCast = false := by
    rw [← Bool.not_eq_true, Code.hasCast_iff, ← Code.not_castFree_iff, not_not]
    exact hcast
  have hcode' : c.delegateCode name bridge implementation =
      .error (.location c.displayName (.bridgeWithoutCast bridge.nameAndType)) := by
    simp [delegateCode, hcode, hnone, bind, Except.bind]
  simp [eliminateCast, hbridge, himplementation, hcode', bind, Except.bind]

section Replaced

variable {before after : List ClassItem} {m m' : Method} {f : Method → Bool}

theorem filter_methods_of_replaced (hitems : c.items = before ++ .method m :: after)
    (hitems' : p.items = before ++ .method m' :: after) (h : c.methods.filter f = [m])
    (hm' : f m' = true) : p.methods.filter f = [m'] := by
  have hm : f m = true := (List.mem_filter.1 (h ▸ List.mem_cons_self : m ∈ c.methods.filter f)).2
  rw [filter_methods_eq hitems hm, List.append_eq_singleton_iff] at h
  rw [filter_methods_eq hitems' hm']
  rcases h with ⟨hbefore, hafter⟩ | ⟨-, hafter⟩
  · rw [hbefore, (List.cons.inj hafter).2, List.nil_append]
  · cases hafter

theorem filter_methods_of_replaced_other (hitems : c.items = before ++ .method m :: after)
    (hitems' : p.items = before ++ .method m' :: after) (hm : f m = false) (hm' : f m' = false) :
    p.methods.filter f = c.methods.filter f := by
  simp [methods, hitems, hitems', ClassItem.method?, hm, hm']

theorem displayName_of_replaced (hitems : c.items = before ++ .method m :: after)
    (hitems' : p.items = before ++ .method m' :: after) : p.displayName = c.displayName := by
  rw [displayName, displayName, name?, name?, hitems, hitems', List.findSome?_append,
    List.findSome?_append]
  rfl

end Replaced

/-- The bridge after it took over a code: it would take over the same code again. -/
structure TookOver (c p : ClassFile) (name : Text) (bridge implementation bridge' : Method)
    (code code' : Code) : Prop where
  onlyBridge : p.methods.filter (fun m => m.name = name ∧ m.isBridge = true) = [bridge']
  onlyImplementation : p.methods.filter (fun m => m.name = name ∧ m.isBridge = false) =
    [implementation]
  displayName : p.displayName = c.displayName
  nameAndType : bridge'.nameAndType = bridge.nameAndType
  bridged : bridge'.code? = some code'
  codes : bridge'.codes = code' :: bridge.codes.tail
  castFree : code'.CastFree ↔ code.CastFree
  delegated : p.Delegated bridge' code' code p

theorem Delegable.exists_tookOver (h : c.Delegable name bridge implementation bridgeCode code)
    (hp : c.Delegated bridge bridgeCode code p) :
    ∃ bridge' code', TookOver c p name bridge implementation bridge' code code' := by
  obtain @⟨es, e, argument, rest, returnType, code', bridge', before, after, hes, he, hdescriptor,
    hretargets, hreplaces, hitems, hitems'⟩ := hp
  obtain ⟨hflags, hname, htype⟩ := hreplaces.header_eq
  have hbridge : bridge.name = name ∧ bridge.isBridge = true := by
    have hmem : bridge ∈ c.methods.filter _ := h.onlyBridge ▸ List.mem_cons_self
    simpa using (List.mem_filter.1 hmem).2
  have hisBridge : bridge'.isBridge = bridge.isBridge := by
    rw [Method.isBridge, Method.hasFlag, hflags, ← Method.hasFlag, ← Method.isBridge]
  obtain ⟨es', e', hes', he', hline⟩ := hretargets.exists_firstLine
  rw [← hline] at hretargets
  refine ⟨bridge', code', ?_, ?_, displayName_of_replaced hitems hitems', ?_, hreplaces.code?_eq.2,
    hreplaces.codes_eq, hretargets.castFree_iff,
    .intro hes' he' (htype ▸ hdescriptor) hretargets hreplaces.again hitems' hitems'⟩
  · exact filter_methods_of_replaced hitems hitems' h.onlyBridge
      (by simp [hname, hisBridge, hbridge])
  · rw [filter_methods_of_replaced_other hitems hitems' (by simp [hbridge])
      (by simp [hisBridge, hbridge])]
    exact h.onlyImplementation
  · rw [Method.nameAndType, hname, htype, ← Method.nameAndType]

theorem TookOver.delegable {bridge' : Method} {code' : Code}
    (ht : TookOver c p name bridge implementation bridge' code code')
    (h : c.Delegable name bridge implementation bridgeCode code) (hcast : ¬ code.CastFree) :
    p.Delegable name bridge' implementation code' code := by
  obtain @⟨es, e, argument, rest, returnType, -, -, -, -, hes, he, hdescriptor, -⟩ := ht.delegated
  exact ⟨ht.onlyBridge, ht.onlyImplementation, ht.bridged,
    Code.not_castFree_iff.1 (mt ht.castFree.1 hcast),
    ⟨es, hes, e, List.mem_of_find?_eq_some he, by simpa using List.find?_some he⟩,
    ⟨_, hdescriptor, List.cons_ne_nil _ _⟩, h.implemented, h.line, h.firstLocal⟩

/-- After a cast was eliminated, the bridge is free of casts if the code that it took over is, and
whatever other code it had. A second elimination is refused exactly if the code that it took over is
free of casts, and otherwise changes nothing. -/
theorem castGone_iff (h : c.eliminateCast name = .ok p) :
    ∃ bridge implementation bridgeCode code,
      c.Delegable name bridge implementation bridgeCode code ∧
      ((∀ m ∈ p.methods, m.name = name → m.isBridge = true → m.CastFree) ↔
        code.CastFree ∧ ∀ other ∈ bridge.codes.tail, other.CastFree) ∧
      (code.CastFree → p.eliminateCast name =
        .error (.location c.displayName (.bridgeWithoutCast bridge.nameAndType))) ∧
      (¬ code.CastFree → p.eliminateCast name = .ok p) := by
  obtain ⟨bridge, implementation, bridgeCode, code, hdelegable, hdelegated⟩ :=
    exists_delegated_of_eliminateCast h
  obtain ⟨bridge', code', ht⟩ := hdelegable.exists_tookOver hdelegated
  -- a second run finds the same two methods, so only the check for a cast decides
  refine ⟨bridge, implementation, bridgeCode, code, hdelegable, ?_, fun hfree => ?_,
    fun hcast => (ht.delegable hdelegable hcast).eliminateCast ht.delegated⟩
  · have honly : (∀ m ∈ p.methods, m.name = name → m.isBridge = true → m.CastFree) ↔
        bridge'.CastFree := by
      rw [← List.forall_mem_singleton (p := Method.CastFree), ← ht.onlyBridge,
        List.forall_mem_filter]
      simp only [decide_eq_true_eq, and_imp]
    rw [honly, Method.CastFree, ht.codes, List.forall_mem_cons, ht.castFree]
  · rw [← ht.displayName, ← ht.nameAndType]
    exact eliminateCast_of_castFree ht.onlyBridge ht.onlyImplementation ht.bridged
      (ht.castFree.2 hfree)

/-- The code that the bridge takes over is free of casts, and its other code is not. -/
theorem castGone_doubledClass :
    (doubledClass castingCode).eliminateCast "f".toList =
        .ok (doubledClass (doubledCode 3 "LA;".toList)) ∧
      ∃ bridge implementation bridgeCode code,
        (doubledClass castingCode).Delegable "f".toList bridge implementation bridgeCode code ∧
        ((∀ m ∈ (doubledClass (doubledCode 3 "LA;".toList)).methods, m.name = "f".toList →
            m.isBridge = true → m.CastFree) ↔
          code.CastFree ∧ ∀ other ∈ bridge.codes.tail, other.CastFree) ∧
        (code.CastFree → (doubledClass (doubledCode 3 "LA;".toList)).eliminateCast "f".toList =
          .error (.location (doubledClass castingCode).displayName
            (.bridgeWithoutCast bridge.nameAndType))) ∧
        (¬ code.CastFree → (doubledClass (doubledCode 3 "LA;".toList)).eliminateCast "f".toList =
          .ok (doubledClass (doubledCode 3 "LA;".toList))) := by
  have h : (doubledClass castingCode).eliminateCast "f".toList =
      .ok (doubledClass (doubledCode 3 "LA;".toList)) := by decide +kernel
  exact ⟨h, castGone_iff h⟩

/-- The held value is cast before it is returned. -/
def heldValueCode (line : Nat) (type : Text) : Code :=
  ⟨1, 2, [.instruction ⟨"L0".toList, "aload_0".toList⟩,
    .instruction ⟨"L1".toList, "getfield Field N value Ljava/lang/Object;".toList⟩,
    .instruction ⟨"L4".toList, "checkcast A".toList⟩, .instruction ⟨"L7".toList, "areturn".toList⟩,
    .lineNumbers [⟨"L0".toList, line⟩],
    .localVariables [⟨1, "value".toList, type, "L0".toList, "L7".toList⟩]]⟩

def heldValueClass (code : Code) : ClassFile :=
  ⟨[.raw ".class N".toList,
    .method ⟨[], "f".toList, "(LB;)LA;".toList, [.code (heldValueCode 9 "LB;".toList)]⟩,
    .method ⟨["bridge".toList], "f".toList, "(LC;)LA;".toList, [.code code]⟩]⟩

/-- The cast of the held value is taken for the cast of the argument, again and again. -/
theorem not_castGone_heldValue :
    (heldValueClass castingCode).eliminateCast "f".toList =
        .ok (heldValueClass (heldValueCode 3 "LC;".toList)) ∧
      ¬ (∀ m ∈ (heldValueClass (heldValueCode 3 "LC;".toList)).methods, m.name = "f".toList →
        m.isBridge = true → m.CastFree) ∧
      ¬ ∃ className fault, (heldValueClass (heldValueCode 3 "LC;".toList)).eliminateCast "f".toList =
        .error (.location className fault) := by
  refine ⟨by decide +kernel, fun h => ?_, ?_⟩
  · have hfree := h _ (.tail _ (.head _)) rfl (by decide) _ (.head _)
    exact hfree ⟨"L4".toList, "checkcast A".toList⟩ (by decide) (by decide)
  · rintro ⟨className, fault, h⟩
    have hagain : (heldValueClass (heldValueCode 3 "LC;".toList)).eliminateCast "f".toList =
        .ok (heldValueClass (heldValueCode 3 "LC;".toList)) := by decide +kernel
    rw [hagain] at h
    cases h

end ClassFile

end ErasedBridges
