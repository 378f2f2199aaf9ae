import ErasedBridges.Proofs.Descriptor.Bracket

/-!
# Types as trees

The nesting that a descriptor writes down with brackets: type arguments stand inside the name of a
class, and each is a type again, a bound or the wildcard. Every tree is written as one token, and a
walk over the token meets the variables of the tree. What names the variables have is left open;
a scan has to find the end of each at the semicolon behind it.
-/

namespace ErasedBridges

open Descriptor

/-- A piece of the text of a type: characters that stay, or a reference to a variable. -/
inductive TypePart where
  | plain (text : Text)
  | reference (name : Text)

namespace TypePart

def text : TypePart → Text
  | plain s => s
  | reference name => 'T' :: (name ++ [';'])

def name? : TypePart → Option Text
  | plain _ => none
  | reference name => some name

/-- The text with `f name` for a reference to a variable for which there is one. -/
def rewritten (f : Text → Option Text) : TypePart → Text
  | plain s => s
  | reference name => (f name).getD (reference name).text

end TypePart

/-- On which side a wildcard is bounded. -/
inductive WildcardBound where
  | upper
  | lower

def WildcardBound.char : WildcardBound → Char
  | upper => '+'
  | lower => '-'

mutual

/-- A type whose variables have names that satisfy `Name`. -/
inductive TypeTree (Name : Text → Prop) where
  | base (b : BaseType)
  | reference (name : Text) (h : Name name)
  | object (body : ClassBody Name)
  | array (element : TypeTree Name)

/-- What stands between the `L` and the semicolon of an object type: plain text and lists of type
arguments. -/
inductive ClassBody (Name : Text → Prop) where
  | nil
  | plain (text : Text) (h : Text.BracketFree text) (rest : ClassBody Name)
  | arguments (args : TypeArguments Name) (rest : ClassBody Name)

inductive TypeArguments (Name : Text → Prop) where
  | nil
  | wildcard (rest : TypeArguments Name)
  | type (bound : Option WildcardBound) (type : TypeTree Name) (rest : TypeArguments Name)

end

variable {Name : Text → Prop}

mutual

def TypeTree.parts : TypeTree Name → List TypePart
  | .base b => [.plain [b.code]]
  | .reference name _ => [.reference name]
  | .object body => .plain ['L'] :: (body.parts ++ [.plain [';']])
  | .array element => .plain ['['] :: element.parts

def ClassBody.parts : ClassBody Name → List TypePart
  | .nil => []
  | .plain text _ rest => .plain text :: rest.parts
  | .arguments args rest => .plain ['<'] :: (args.parts ++ .plain ['>'] :: rest.parts)

def TypeArguments.parts : TypeArguments Name → List TypePart
  | .nil => []
  | .wildcard rest => .plain ['*'] :: rest.parts
  | .type bound type rest =>
    .plain (bound.map WildcardBound.char).toList :: (type.parts ++ rest.parts)

end

def textOfParts (ps : List TypePart) : Text := ps.flatMap TypePart.text

@[simp] theorem textOfParts_nil : textOfParts [] = [] := rfl

@[simp] theorem textOfParts_cons (p : TypePart) (ps : List TypePart) :
    textOfParts (p :: ps) = p.text ++ textOfParts ps := List.flatMap_cons

@[simp] theorem textOfParts_append (ps qs : List TypePart) :
    textOfParts (ps ++ qs) = textOfParts ps ++ textOfParts qs := List.flatMap_append

def TypeTree.text (e : TypeTree Name) : Text := textOfParts e.parts

def ClassBody.text (body : ClassBody Name) : Text := textOfParts body.parts

def TypeArguments.text (args : TypeArguments Name) : Text := textOfParts args.parts

namespace TypeTree

def mentioned (e : TypeTree Name) : List Text := e.parts.filterMap TypePart.name?

/-- The text with `f name` for every reference to a variable for which there is one. -/
def rewritten (f : Text → Option Text) (e : TypeTree Name) : Text :=
  e.parts.flatMap (TypePart.rewritten f)

theorem text_reference {name : Text} (h : Name name) :
    text (.reference name h) = 'T' :: (name ++ [';']) := by
  simp [text, parts, TypePart.text]

theorem text_object (body : ClassBody Name) :
    text (.object body) = 'L' :: (body.text ++ [';']) := by
  simp [text, parts, TypePart.text, ClassBody.text]

theorem text_array (element : TypeTree Name) : text (.array element) = '[' :: element.text := by
  simp [text, parts, TypePart.text]

end TypeTree

namespace ClassBody

theorem text_plain {s : Text} (h : Text.BracketFree s) (rest : ClassBody Name) :
    (plain s h rest).text = s ++ rest.text := by
  simp [text, parts, TypePart.text]

theorem text_arguments (args : TypeArguments Name) (rest : ClassBody Name) :
    (arguments args rest).text = '<' :: (args.text ++ '>' :: rest.text) := by
  simp [text, parts, TypePart.text, TypeArguments.text]

end ClassBody

namespace TypeArguments

theorem text_wildcard (rest : TypeArguments Name) : (wildcard rest).text = '*' :: rest.text := by
  simp [text, parts, TypePart.text]

theorem text_type (bound : Option WildcardBound) (e : TypeTree Name) (rest : TypeArguments Name) :
    (type bound e rest).text = (bound.map WildcardBound.char).toList ++ (e.text ++ rest.text) := by
  simp [text, parts, TypePart.text, TypeTree.text]

end TypeArguments

/-! ### Trees are tokens -/

/-- A scan finds the ends of these names. -/
def Scannable (Name : Text → Prop) : Prop := ∀ name, Name name → IsName name

theorem scannable_bracketFree : Scannable Text.BracketFree := fun _ => isName_of_bracketFree

theorem scannable_isName : Scannable IsName := fun _ => id

mutual

theorem TypeTree.isToken (hName : Scannable Name) : ∀ e : TypeTree Name, IsToken ⟨e.text⟩
  | .base b => by cases b <;> rfl
  | .reference name h => by
    rw [IsToken, TypeTree.text_reference, scan, hName name h]
    · rfl
    · decide
  | .object body => by
    rw [IsToken, TypeTree.text_object, scan, body.passes hName 0 le_rfl]
    · rfl
    · decide
  | .array element => by
    have helement : scan element.text = some (element.text, []) := element.isToken hName
    rw [IsToken, TypeTree.text_array, scan, helement]
    rfl

theorem ClassBody.passes (hName : Scannable Name) : ∀ body : ClassBody Name,
    Passes 0 body.text
  | .nil => .nil
  | .plain text h rest => by
    rw [ClassBody.text_plain]
    exact (Passes.of_bracketFree h).append (rest.passes hName)
  | .arguments args rest => by
    rw [ClassBody.text_arguments, ← List.singleton_append (l := rest.text), ← List.append_assoc,
      ← List.cons_append]
    exact (Passes.brackets (args.passes hName)).append (rest.passes hName)

theorem TypeArguments.passes (hName : Scannable Name) :
    ∀ args : TypeArguments Name, Passes 1 args.text
  | .nil => .nil
  | .wildcard rest =>
    (Passes.singleton (by decide) (by decide) (by decide)).append (rest.passes hName)
  | .type bound type rest => by
    have hbound : Passes 1 (bound.map WildcardBound.char).toList := by
      rcases bound with _ | (_ | _)
      · exact .nil
      · exact .singleton (by decide) (by decide) (by decide)
      · exact .singleton (by decide) (by decide) (by decide)
    rw [TypeArguments.text_type]
    exact hbound.append ((passes_of_scan (type.isToken hName)).append (rest.passes hName))

end

/-! ### Walks over trees -/

def Walk.ofParts (f : Text → Option Text) (ps : List TypePart) : Walk Text :=
  ⟨ps.filterMap TypePart.name?, some (ps.flatMap (TypePart.rewritten f))⟩

variable {f : Text → Option Text}

theorem Walk.cons_ofParts (c : Char) (ps : List TypePart) :
    (Walk.ofParts f ps).cons c = .ofParts f (.plain [c] :: ps) := rfl

theorem Walk.bind_ofParts (ps qs : List TypePart) :
    ((Walk.ofParts f ps).bind fun s => (Walk.ofParts f qs).map (s ++ ·)) =
      .ofParts f (ps ++ qs) := by
  simp [Walk.ofParts, Walk.bind, Walk.map]

namespace Descriptor

/-- Plain text stays, character by character. -/
theorem walkClass_plain {s t : Text} (h : Text.BracketFree s) {ps : List TypePart}
    (ht : walkClass f t = .ofParts f ps) :
    walkClass f (s ++ t) = .ofParts f (.plain s :: ps) := by
  induction s with
  | nil => exact ht
  | cons c s ih =>
    obtain ⟨⟨hopen, -, hend⟩, hs⟩ := List.forall_mem_cons.1 h
    rw [List.cons_append, walkClass.eq_4 _ _ _ hopen hend, ih hs]
    rfl

theorem walkBound_token {d : Descriptor} (hd : d.IsToken) {ps qs : List TypePart} {s : Text}
    (hwalk : walkToken f d.text = .ofParts f ps) (hs : walkArguments f s = .ofParts f qs) :
    walkBound f (d.text ++ s) = .ofParts f (ps ++ qs) := by
  rw [walkBound.eq_def]
  split
  · next hnone =>
    rw [hd.scan_append] at hnone
    cases hnone
  · next token rest hscan =>
    rw [hd.scan_append] at hscan
    cases hscan
    rw [hwalk, hs, Walk.bind_ofParts]

/-- No token begins with what else stands among the arguments. -/
theorem walkArguments_token {d : Descriptor} (hd : d.IsToken) (s : Text) :
    walkArguments f (d.text ++ s) = walkBound f (d.text ++ s) := by
  have hhead (c : Char) (hc : opensToken c = false) (t : Text) : d.text ++ s ≠ c :: t :=
    fun he => hd.head_append_ne hc s (by rw [he]; rfl)
  exact walkArguments.eq_6 _ _ (List.append_ne_nil_of_left_ne_nil hd.ne_nil s) (hhead '>' rfl)
    (hhead '*' rfl) (hhead '+' rfl) (hhead '-' rfl)

end Descriptor

mutual

theorem TypeTree.walk (hName : Scannable Name) :
    ∀ e : TypeTree Name, walkToken f e.text = .ofParts f e.parts
  | .base b => by
    rw [TypeTree.text, TypeTree.parts, textOfParts_cons]
    cases b <;> simp [TypePart.text, BaseType.code, walkToken] <;> rfl
  | .reference name h => by
    have hname : Text.dropEnd? [';'] (name ++ [';']) = some name := Text.dropEnd?_eq_some.2 rfl
    rw [TypeTree.text_reference, walkToken, hname]
    simp [Walk.ofParts, TypeTree.parts, TypePart.name?, TypePart.rewritten, TypePart.text]
  | .object body => by
    rw [TypeTree.text_object, walkToken, body.walk hName]
    rfl
  | .array element => by
    rw [TypeTree.text_array, walkToken, element.walk hName]
    rfl

theorem ClassBody.walk (hName : Scannable Name) : ∀ body : ClassBody Name,
    walkClass f (body.text ++ [';']) = .ofParts f (body.parts ++ [.plain [';']])
  | .nil => by
    rw [ClassBody.text, ClassBody.parts, textOfParts_nil, List.nil_append, walkClass]
    rfl
  | .plain text h rest => by
    rw [ClassBody.text_plain, List.append_assoc, ClassBody.parts]
    exact walkClass_plain h (rest.walk hName)
  | .arguments args rest => by
    rw [ClassBody.text_arguments, List.cons_append, List.append_assoc, List.cons_append, walkClass,
      args.walk hName (rest.walk hName), ClassBody.parts]
    simp [Walk.cons_ofParts]

/-- The arguments end at the closing bracket, and the class goes on behind it. -/
theorem TypeArguments.walk (hName : Scannable Name) :
    ∀ (args : TypeArguments Name) {s : Text} {ps : List TypePart}, walkClass f s = .ofParts f ps →
      walkArguments f (args.text ++ '>' :: s) = .ofParts f (args.parts ++ .plain ['>'] :: ps)
  | .nil, s, ps, hs => by
    rw [TypeArguments.text, TypeArguments.parts, textOfParts_nil, List.nil_append, walkArguments,
      hs]
    rfl
  | .wildcard rest, s, ps, hs => by
    rw [TypeArguments.text_wildcard, List.cons_append, walkArguments, rest.walk hName hs]
    rfl
  | .type bound type rest, s, ps, hs => by
    have hbound : walkBound f (type.text ++ (rest.text ++ '>' :: s)) =
        .ofParts f (type.parts ++ (rest.parts ++ .plain ['>'] :: ps)) :=
      walkBound_token (type.isToken hName) (type.walk hName) (rest.walk hName hs)
    rw [TypeArguments.text_type, TypeArguments.parts, List.append_assoc, List.append_assoc,
      List.cons_append, List.append_assoc]
    rcases bound with _ | (_ | _)
    · exact (walkArguments_token (type.isToken hName) _).trans hbound
    · rw [show (Option.map WildcardBound.char (some .upper)).toList = ['+'] from rfl,
        List.singleton_append, walkArguments, hbound]
      rfl
    · rw [show (Option.map WildcardBound.char (some .lower)).toList = ['-'] from rfl,
        List.singleton_append, walkArguments, hbound]
      rfl

end

/-- Every tree is written as a descriptor. A rewriting of it asks for each variable once, from left
to right, and changes nothing but the references to those for which there is a text. -/
theorem TypeTree.mapVariables_text (f : Text → Option Text) (e : TypeTree Text.BracketFree) :
    Descriptor.parse e.text = .ok ⟨e.text⟩ ∧ (walkToken f e.text).seen = e.mentioned ∧
      Descriptor.mapVariables f ⟨e.text⟩ = .ok ⟨e.rewritten f⟩ := by
  have hwalk : walkToken f e.text = .ofParts f e.parts := e.walk scannable_bracketFree
  refine ⟨(isToken_iff_parse.1 (e.isToken scannable_bracketFree)).1, ?_, ?_⟩
  · rw [hwalk]
    rfl
  · rw [mapVariables_eq_ok, hwalk]
    rfl

example (hmap : Text.BracketFree "Map".toList) (hvariable : Text.BracketFree "T".toList) :
    TypeTree.text (.object (.plain "Map".toList hmap (.arguments
      (.type none (.reference "T".toList hvariable)
        (.type (some .upper) (.array (.base .int)) .nil)) .nil))) = "LMap<TT;+[I>;".toList := rfl

end ErasedBridges
