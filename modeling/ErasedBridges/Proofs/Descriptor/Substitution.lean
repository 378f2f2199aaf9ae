import ErasedBridges.Proofs.Descriptor.Rewriting

/-!
# Substitution

To put the texts of trees in the place of variables is to write the tree in which these trees are
substituted. So what a token becomes is a token again, and it mentions what the tree does.
-/

namespace ErasedBridges

open Descriptor

variable {Name : Text → Prop}

mutual

def TypeTree.substitute (g : Text → Option (TypeTree Name)) : TypeTree Name → TypeTree Name
  | .base b => .base b
  | .reference name h => (g name).getD (.reference name h)
  | .object body => .object (body.substitute g)
  | .array element => .array (element.substitute g)

def ClassBody.substitute (g : Text → Option (TypeTree Name)) : ClassBody Name → ClassBody Name
  | .nil => .nil
  | .plain text h rest => .plain text h (rest.substitute g)
  | .arguments args rest => .arguments (args.substitute g) (rest.substitute g)

def TypeArguments.substitute (g : Text → Option (TypeTree Name)) :
    TypeArguments Name → TypeArguments Name
  | .nil => .nil
  | .wildcard rest => .wildcard (rest.substitute g)
  | .type bound type rest => .type bound (type.substitute g) (rest.substitute g)

end

/-- The parts that stand where a part stood. -/
def TypePart.substitute (g : Text → Option (TypeTree Name)) : TypePart → List TypePart
  | plain s => [plain s]
  | reference name => ((g name).map TypeTree.parts).getD [reference name]

mutual

theorem TypeTree.parts_substitute (g : Text → Option (TypeTree Name)) : ∀ e : TypeTree Name,
    (e.substitute g).parts = e.parts.flatMap (TypePart.substitute g)
  | .base b => rfl
  | .reference name h => by
    rw [TypeTree.substitute, TypeTree.parts, List.flatMap_singleton, TypePart.substitute]
    cases g name <;> rfl
  | .object body => by
    simp [TypeTree.substitute, TypeTree.parts, body.parts_substitute g, TypePart.substitute]
  | .array element => by
    simp [TypeTree.substitute, TypeTree.parts, element.parts_substitute g, TypePart.substitute]

theorem ClassBody.parts_substitute (g : Text → Option (TypeTree Name)) : ∀ body : ClassBody Name,
    (body.substitute g).parts = body.parts.flatMap (TypePart.substitute g)
  | .nil => rfl
  | .plain text h rest => by
    simp [ClassBody.substitute, ClassBody.parts, rest.parts_substitute g, TypePart.substitute]
  | .arguments args rest => by
    simp [ClassBody.substitute, ClassBody.parts, args.parts_substitute g, rest.parts_substitute g,
      TypePart.substitute]

theorem TypeArguments.parts_substitute (g : Text → Option (TypeTree Name)) :
    ∀ args : TypeArguments Name,
      (args.substitute g).parts = args.parts.flatMap (TypePart.substitute g)
  | .nil => rfl
  | .wildcard rest => by
    simp [TypeArguments.substitute, TypeArguments.parts, rest.parts_substitute g,
      TypePart.substitute]
  | .type bound type rest => by
    simp [TypeArguments.substitute, TypeArguments.parts, type.parts_substitute g,
      rest.parts_substitute g, TypePart.substitute]

end

namespace TypeTree

variable (g : Text → Option (TypeTree Name)) (e : TypeTree Name)

theorem text_substitute : (e.substitute g).text = e.rewritten fun name => (g name).map text := by
  rw [text, parts_substitute, textOfParts, List.flatMap_assoc, rewritten]
  congr 1
  funext part
  cases part with
  | plain s => simp [TypePart.substitute, TypePart.rewritten, TypePart.text]
  | reference name =>
    rw [TypePart.substitute, TypePart.rewritten]
    cases g name <;> simp [text, textOfParts]

theorem mentioned_substitute : (e.substitute g).mentioned =
    e.mentioned.flatMap fun name => ((g name).map mentioned).getD [name] := by
  rw [mentioned, parts_substitute, mentioned]
  induction e.parts with
  | nil => rfl
  | cons part ps ih =>
    rw [List.flatMap_cons, List.filterMap_append, ih]
    cases part with
    | plain s => rfl
    | reference name =>
      have hmet : (TypePart.reference name :: ps).filterMap TypePart.name? =
          name :: ps.filterMap TypePart.name? := rfl
      rw [hmet, List.flatMap_cons, TypePart.substitute]
      cases g name <;> rfl

end TypeTree

/-! ### Descriptors in the place of variables -/

namespace Descriptor

theorem mentioned_text (e : TypeTree IsName) : mentioned ⟨e.text⟩ = e.mentioned := by
  rw [mentioned, e.walk scannable_isName]
  rfl

theorem rewritable_text (e : TypeTree IsName) : Rewritable ⟨e.text⟩ := fun f =>
  ⟨⟨e.rewritten f⟩, by rw [mapVariables_eq_ok, e.walk scannable_isName]; rfl⟩

theorem mentions_eq_ok {d : Descriptor} (h : d.Rewritable) (name : Text) :
    d.mentions name = .ok (d.mentioned.elem name) := by
  obtain ⟨d', hd'⟩ := h fun _ => none
  rw [mentions, hd']
  rfl

/-- What a token becomes when a type stands in the place of a variable: a token again, with the
variables of the type where the variable was. -/
theorem isToken_substitute {d d' type : Descriptor} {name : Text} (hd : d.IsToken)
    (htype : type.IsToken) (hrewritable : type.Rewritable) (h : d.substitute name type = .ok d') :
    d'.IsToken ∧ d'.Rewritable ∧ d'.mentioned =
      d.mentioned.flatMap fun other => if other = name then type.mentioned else [other] := by
  obtain ⟨e, rfl, rfl⟩ := exists_tree_of_mapVariables hd h
  obtain ⟨same, hsame⟩ := hrewritable fun _ => none
  obtain ⟨r, rfl, -⟩ := exists_tree_of_mapVariables htype hsame
  let g : Text → Option (TypeTree IsName) := fun other => if other = name then some r else none
  have htext : e.rewritten (fun other => if other = name then some r.text else none) =
      (e.substitute g).text := by
    rw [TypeTree.text_substitute]
    congr 1
    funext other
    simp only [g]
    split <;> rfl
  rw [htext]
  refine ⟨(e.substitute g).isToken scannable_isName, rewritable_text _, ?_⟩
  rw [mentioned_text, mentioned_text, mentioned_text, TypeTree.mentioned_substitute]
  congr 1
  funext other
  simp only [g]
  split <;> rfl

theorem mapVariables_void (f : Text → Option Text) : void.mapVariables f = .ok void := by
  rw [mapVariables_eq_ok, void, walkToken.eq_5 _ _ (by decide) (by simp) (by simp) (by simp)]
  rfl

theorem mentioned_void : void.mentioned = [] := by
  rw [mentioned, void, walkToken.eq_5 _ _ (by decide) (by simp) (by simp) (by simp)]
  rfl

/-- Substitution brings in no characters but those of the type. -/
theorem mem_substitute {d d' type : Descriptor} {name : Text}
    (hd : parse d.text = .ok d) (h : d.substitute name type = .ok d') {c : Char}
    (hc : c ∈ d'.text) :
    c ∈ d.text ∨ c ∈ type.text := by
  rcases (parse_eq_ok_iff.1 hd).2 with rfl | htoken
  · obtain rfl : void = d' := Except.ok.inj ((mapVariables_void _).symm.trans h)
    exact Or.inl hc
  obtain ⟨e, rfl, rfl⟩ := exists_tree_of_mapVariables htoken h
  obtain ⟨part, hpart, hc⟩ := List.mem_flatMap.1 hc
  cases part with
  | plain s => exact Or.inl (List.mem_flatMap.2 ⟨_, hpart, hc⟩)
  | reference other =>
    rw [TypePart.rewritten] at hc
    split at hc
    · exact Or.inr hc
    · exact Or.inl (List.mem_flatMap.2 ⟨_, hpart, hc⟩)

/-- What is read as a descriptor is read as one after substitution. -/
theorem parse_substitute {d d' type : Descriptor} {name : Text} (hd : parse d.text = .ok d)
    (htype : type.IsToken) (hrewritable : type.Rewritable) (h : d.substitute name type = .ok d') :
    parse d'.text = .ok d' ∧ d'.Rewritable ∧ d'.mentioned =
      d.mentioned.flatMap fun other => if other = name then type.mentioned else [other] := by
  rcases (parse_eq_ok_iff.1 hd).2 with rfl | htoken
  · obtain rfl : void = d' := Except.ok.inj ((mapVariables_void _).symm.trans h)
    exact ⟨rfl, fun f => ⟨_, mapVariables_void f⟩, by rw [mentioned_void]; rfl⟩
  · obtain ⟨htoken', hrest⟩ := isToken_substitute htoken htype hrewritable h
    exact ⟨(isToken_iff_parse.1 htoken').1, hrest⟩

/-- A class without type arguments mentions no variables. -/
theorem mentioned_object {name : Text} (h : Text.BracketFree name) :
    (object name).Rewritable ∧ (object name).mentioned = [] := by
  let e : TypeTree IsName := .object (.plain name h .nil)
  have hbody : (ClassBody.plain name h .nil : ClassBody IsName).text = name :=
    (ClassBody.text_plain h .nil).trans (List.append_nil name)
  have htext : object name = ⟨e.text⟩ := by
    rw [object, TypeTree.text_object, hbody]
  rw [htext]
  exact ⟨rewritable_text e, mentioned_text e⟩

end Descriptor

end ErasedBridges
