import ErasedBridges.Command.Template
import ErasedBridges.Proofs.Success
import ErasedBridges.Proofs.Text.Separator

/-!
# Filling in templates

An argument falls apart into literal text and placeholders in one way only. Filling it in puts
values between the literals and looks at no value again. The first placeholder that cannot be filled
in is the one that is reported.
-/

namespace ErasedBridges.CommandTemplate

/-- An argument taken apart: placeholders by their names, each after a literal, and at the end a
literal, which a brace that is not closed may follow. -/
inductive Parts where
  | plain (literal : Text)
  | unclosed (literal tail : Text)
  | placeholder (literal name : Text) (rest : Parts)

namespace Parts

def text : Parts → Text
  | plain literal => literal
  | unclosed literal tail => literal ++ '\x7b' :: tail
  | placeholder literal name rest => literal ++ '\x7b' :: (name ++ '\x7d' :: rest.text)

/-- No literal has an opening brace, and no name has a closing one. -/
def IsProper : Parts → Prop
  | plain literal => '\x7b' ∉ literal
  | unclosed literal tail => '\x7b' ∉ literal ∧ '\x7d' ∉ tail
  | placeholder literal name rest => '\x7b' ∉ literal ∧ '\x7d' ∉ name ∧ rest.IsProper

def names : Parts → List Text
  | plain _ | unclosed _ _ => []
  | placeholder _ name rest => name :: rest.names

def isClosed : Parts → Bool
  | plain _ => true
  | unclosed _ _ => false
  | placeholder _ _ rest => rest.isClosed

/-- The literals with values in the places of the names between them. -/
def filled (value : Text → Text) : Parts → Text
  | plain literal | unclosed literal _ => literal
  | placeholder literal name rest => literal ++ value name ++ rest.filled value

/-- The argument is taken apart into these parts. -/
def IsOf (argument : Text) (p : Parts) : Prop := p.IsProper ∧ p.text = argument

variable {argument : Text} {p q : Parts}

/-! ### The one way to take an argument apart -/

theorem exists_isOf (argument : Text) : ∃ p : Parts, p.IsOf argument := by
  induction hlength : argument.length using Nat.strong_induction_on generalizing argument with
  | _ length ih =>
    by_cases hopen : '\x7b' ∈ argument
    · obtain ⟨literal, after, rfl, hliteral⟩ := List.eq_append_cons_of_mem hopen
      by_cases hclose : '\x7d' ∈ after
      · obtain ⟨name, rest, rfl, hname⟩ := List.eq_append_cons_of_mem hclose
        have hshorter : rest.length < length := by
          rw [← hlength]
          simp only [List.length_append, List.length_cons]
          omega
        obtain ⟨p, hp, htext⟩ := ih rest.length hshorter rest rfl
        exact ⟨placeholder literal name p, ⟨hliteral, hname, hp⟩, by rw [text, htext]⟩
      · exact ⟨unclosed literal after, ⟨hliteral, hclose⟩, rfl⟩
    · exact ⟨plain argument, hopen, rfl⟩

/-- The literal before the first opening brace, and what follows the brace. -/
def opening? : Parts → Option (Text × Text)
  | plain _ => none
  | unclosed literal tail => some (literal, tail)
  | placeholder literal name rest => some (literal, name ++ '\x7d' :: rest.text)

theorem IsProper.cut?_text (hp : p.IsProper) : Text.cut? ['\x7b'] p.text = p.opening? := by
  cases p with
  | plain literal => exact Text.cut?_of_notMem hp
  | unclosed literal tail => exact Text.cut?_char hp.1 tail
  | placeholder literal name rest => exact Text.cut?_char hp.1 _

theorem IsProper.eq_of_text_eq (hp : p.IsProper) (hq : q.IsProper) (h : p.text = q.text) :
    p = q := by
  have hopening : p.opening? = q.opening? := by
    rw [← hp.cut?_text, ← hq.cut?_text, h]
  induction p generalizing q with
  | plain literal =>
    cases q with
    | plain literal' => exact congrArg plain h
    | unclosed literal' tail' => cases hopening
    | placeholder literal' name' rest' => cases hopening
  | unclosed literal tail =>
    cases q with
    | plain literal' => cases hopening
    | unclosed literal' tail' =>
      cases hopening
      rfl
    | placeholder literal' name' rest' =>
      cases hopening
      exact absurd (List.mem_append_right name' List.mem_cons_self) hp.2
  | placeholder literal name rest ih =>
    cases q with
    | plain literal' => cases hopening
    | unclosed literal' tail' =>
      cases hopening
      exact absurd (List.mem_append_right name List.mem_cons_self) hq.2
    | placeholder literal' name' rest' =>
      obtain ⟨hliteral, hafter⟩ := Prod.mk.inj (Option.some.inj hopening)
      have hcut := Text.cut?_char hp.2.1 rest.text
      rw [hafter, Text.cut?_char hq.2.1] at hcut
      obtain ⟨hname, htext⟩ := Prod.mk.inj (Option.some.inj hcut)
      have hrest : rest = rest' := by
        refine ih hp.2.2 hq.2.2 htext.symm ?_
        rw [← hp.2.2.cut?_text, ← hq.2.2.cut?_text, htext]
      rw [hliteral, ← hname, hrest]

theorem existsUnique_isOf (argument : Text) : ∃! p : Parts, p.IsOf argument := by
  obtain ⟨p, hp⟩ := exists_isOf argument
  exact ⟨p, hp, fun q hq => hq.1.eq_of_text_eq hp.1 (hq.2.trans hp.2.symm)⟩

theorem exists_isOf_and_iff {P : Parts → Prop} (hp : p.IsOf argument) :
    (∃ q : Parts, q.IsOf argument ∧ P q) ↔ P p := by
  constructor
  · rintro ⟨q, hq, h⟩
    rw [(existsUnique_isOf argument).unique hp hq]
    exact h
  · exact fun h => ⟨p, hp, h⟩

theorem filled_congr {value value' : Text → Text}
    (h : ∀ name ∈ p.names, value name = value' name) : p.filled value = p.filled value' := by
  induction p with
  | plain literal => rfl
  | unclosed literal tail => rfl
  | placeholder literal name rest ih =>
    obtain ⟨hname, hrest⟩ := List.forall_mem_cons.1 h
    rw [filled, filled, hname, ih hrest]

end Parts

/-! ### Values -/

variable {values : Values} {argument : Text} {p : Parts}

def keys (values : Values) : List Text := values.map Prod.fst

def IsValue (values : Values) (name value : Text) : Prop :=
  ∃ before after, values = before ++ (name, value) :: after ∧ name ∉ keys before

theorem lookup_eq_none {values : Values} {name : Text} :
    values.lookup name = none ↔ name ∉ keys values := by
  rw [List.lookup_eq_none_iff, keys, List.mem_map, not_exists]
  constructor
  · rintro h v ⟨hv, rfl⟩
    exact bne_iff_ne.1 (h v hv) rfl
  · intro h v hv
    exact bne_iff_ne.2 fun hname => h v ⟨hv, hname.symm⟩

theorem lookup_eq_some {name value : Text} :
    values.lookup name = some value ↔ IsValue values name value := by
  rw [List.lookup_eq_some_iff]
  simp only [IsValue, ← lookup_eq_none, List.lookup_eq_none_iff]

theorem mem_keys_iff {name : Text} : name ∈ keys values ↔ ∃ value, IsValue values name value := by
  rw [← not_iff_not, ← lookup_eq_none, Option.eq_none_iff_forall_ne_some, not_exists]
  simp only [ne_eq, lookup_eq_some]

/-! ### Filling in one argument -/

theorem fillRest_literal {literal : Text} (h : '\x7b' ∉ literal) (s : Text) :
    fillRest values argument (literal ++ s) =
      (fillRest values argument s).map (literal ++ ·) := by
  induction literal with
  | nil =>
    cases hs : fillRest values argument s with
    | error fault => simp [hs, Except.map]
    | ok filled => simp [hs, Except.map]
  | cons c literal ih =>
    obtain ⟨hc, hliteral⟩ := not_or.1 (List.mem_cons.not.1 h)
    rw [List.cons_append, fillRest, ih hliteral]
    · cases fillRest values argument s with
      | error fault => rfl
      | ok filled => rfl
    · exact fun hopen => hc hopen.symm

theorem fillRest_placeholder {name : Text} (h : '\x7d' ∉ name) (s : Text) :
    fillRest values argument ('\x7b' :: (name ++ '\x7d' :: s)) =
      match values.lookup name with
      | none => .error (.unknown name)
      | some value => (fillRest values argument s).map (value ++ ·) := by
  rw [fillRest]
  split
  · next hcut =>
    rw [Text.cut?_char h] at hcut
    cases hcut
  · next name' rest' hcut =>
    rw [Text.cut?_char h] at hcut
    cases hcut
    rfl

theorem fillRest_unclosed {tail : Text} (h : '\x7d' ∉ tail) :
    fillRest values argument ('\x7b' :: tail) = .error (.unclosed argument) := by
  rw [fillRest]
  split
  · rfl
  · next name rest hcut =>
    rw [Text.cut?_of_notMem h] at hcut
    cases hcut

/-- The scan stops at the first name without a value, and at the end where a brace is open. -/
theorem fillRest_text (hp : p.IsProper) :
    fillRest values argument p.text =
      match p.names.find? fun name => (values.lookup name).isNone with
      | some name => .error (.unknown name)
      | none =>
        if p.isClosed then .ok (p.filled fun name => (values.lookup name).getD [])
        else .error (.unclosed argument) := by
  induction p with
  | plain literal =>
    have hfill : fillRest values argument (literal ++ []) =
        (fillRest values argument []).map (literal ++ ·) := fillRest_literal hp []
    rw [List.append_nil, fillRest] at hfill
    rw [Parts.text, hfill]
    show Except.ok (literal ++ []) = Except.ok literal
    rw [List.append_nil]
  | unclosed literal tail =>
    rw [Parts.text, fillRest_literal hp.1, fillRest_unclosed hp.2]
    rfl
  | placeholder literal name rest ih =>
    rw [Parts.text, fillRest_literal hp.1, fillRest_placeholder hp.2.1, ih hp.2.2, Parts.names]
    cases hvalue : values.lookup name with
    | none =>
      rw [List.find?_cons_of_pos (by rw [hvalue]; rfl)]
      rfl
    | some value =>
      rw [List.find?_cons_of_neg (by rw [hvalue]; exact Bool.false_ne_true)]
      cases rest.names.find? fun name => (values.lookup name).isNone with
      | some unknown => rfl
      | none =>
        cases hclosed : rest.isClosed with
        | false => simp [Parts.isClosed, hclosed, Except.map]
        | true => simp [Parts.isClosed, hclosed, Except.map, Parts.filled, hvalue]

namespace Parts

/-- The text is the literals with the first values of the names between them. -/
def Fills (values : Values) (s : Text) (p : Parts) : Prop :=
  p.isClosed = true ∧ ∃ value : Text → Text,
    (∀ name ∈ p.names, IsValue values name (value name)) ∧ s = p.filled value

/-- The fault is that of the first name without a value or, if there is none, of the brace that is
not closed. -/
def Fails (values : Values) (argument : Text) (fault : TemplateFault) (p : Parts) : Prop :=
  (∃ before name after, p.names = before ++ name :: after ∧ (∀ n ∈ before, n ∈ keys values) ∧
    name ∉ keys values ∧ fault = .unknown name) ∨
  ((∀ name ∈ p.names, name ∈ keys values) ∧ p.isClosed = false ∧ fault = .unclosed argument)

theorem find?_eq_none :
    (p.names.find? fun name => (values.lookup name).isNone) = none ↔
      ∀ name ∈ p.names, name ∈ keys values := by
  rw [List.find?_eq_none]
  simp only [Option.isNone_iff_eq_none, lookup_eq_none, not_not]

theorem find?_eq_some {name : Text} :
    (p.names.find? fun name => (values.lookup name).isNone) = some name ↔
      ∃ before after, p.names = before ++ name :: after ∧ (∀ n ∈ before, n ∈ keys values) ∧
        name ∉ keys values := by
  rw [List.find?_eq_some_iff_append]
  simp only [Option.isNone_iff_eq_none, lookup_eq_none, Bool.not_eq_true', ← Bool.not_eq_true,
    not_not]
  constructor
  · rintro ⟨hname, before, after, hnames, hbefore⟩
    exact ⟨before, after, hnames, hbefore, hname⟩
  · rintro ⟨before, after, hnames, hbefore, hname⟩
    exact ⟨hname, before, after, hnames, hbefore⟩

end Parts

theorem fill_eq_ok_iff (hp : p.IsOf argument) {s : Text} :
    fill values argument = .ok s ↔ p.Fills values s := by
  obtain ⟨hproper, rfl⟩ := hp
  rw [fill, fillRest_text hproper]
  constructor
  · intro h
    split at h
    · cases h
    · next hkeys =>
      split at h
      · next hclosed =>
        refine ⟨hclosed, _, fun name hname => ?_, (Except.ok.inj h).symm⟩
        obtain ⟨value, hvalue⟩ := mem_keys_iff.1 (Parts.find?_eq_none.1 hkeys name hname)
        rw [lookup_eq_some.2 hvalue]
        exact hvalue
      · cases h
  · rintro ⟨hclosed, value, hvalue, rfl⟩
    have hkeys : ∀ name ∈ p.names, name ∈ keys values :=
      fun name hname => mem_keys_iff.2 ⟨value name, hvalue name hname⟩
    have hfilled : (p.filled fun name => (values.lookup name).getD []) = p.filled value :=
      Parts.filled_congr fun name hname => by rw [lookup_eq_some.2 (hvalue name hname)]; rfl
    simp only [Parts.find?_eq_none.2 hkeys, hclosed, hfilled, if_true]

theorem fill_eq_error_iff (hp : p.IsOf argument) {fault : TemplateFault} :
    fill values argument = .error fault ↔ p.Fails values argument fault := by
  obtain ⟨hproper, rfl⟩ := hp
  rw [fill, fillRest_text hproper]
  constructor
  · intro h
    split at h
    · next name hname =>
      cases h
      obtain ⟨before, after, hnames, hbefore, hkey⟩ := Parts.find?_eq_some.1 hname
      exact Or.inl ⟨before, name, after, hnames, hbefore, hkey, rfl⟩
    · next hkeys =>
      split at h
      · cases h
      · next hclosed =>
        cases h
        exact Or.inr ⟨Parts.find?_eq_none.1 hkeys, Bool.not_eq_true _ ▸ hclosed, rfl⟩
  · rintro (⟨before, name, after, hnames, hbefore, hkey, rfl⟩ | ⟨hkeys, hclosed, rfl⟩)
    · rw [Parts.find?_eq_some.2 ⟨before, after, hnames, hbefore, hkey⟩]
    · simp [Parts.find?_eq_none.2 hkeys, hclosed]

theorem exists_fill_iff (hp : p.IsOf argument) :
    (∃ s, fill values argument = .ok s) ↔
      p.isClosed = true ∧ ∀ name ∈ p.names, name ∈ keys values := by
  constructor
  · rintro ⟨s, hs⟩
    obtain ⟨hclosed, value, hvalue, -⟩ := (fill_eq_ok_iff hp).1 hs
    exact ⟨hclosed, fun name hname => mem_keys_iff.2 ⟨value name, hvalue name hname⟩⟩
  · rintro ⟨hclosed, hkeys⟩
    rw [fill, ← hp.2, fillRest_text hp.1, Parts.find?_eq_none.2 hkeys]
    exact ⟨_, if_pos hclosed⟩

/-! ### Rendering a template -/

variable {template : CommandTemplate} {cwd : Path}

theorem render_eq_ok_iff {c : CommandSpec} :
    render template cwd values = .ok c ↔
      c.cwd = cwd ∧ template.mapM (fill values) = .ok (c.program :: c.args) := by
  cases template with
  | nil => exact ⟨nofun, nofun⟩
  | cons program args =>
    rw [render, List.mapM_cons]
    simp only [bind_eq_ok]
    constructor
    · rintro ⟨s, hs, ss, hss, h⟩
      cases h
      exact ⟨rfl, s, hs, ss, hss, rfl⟩
    · rintro ⟨rfl, s, hs, ss, hss, h⟩
      cases h
      exact ⟨_, hs, _, hss, rfl⟩

theorem render_eq_error_iff {fault : TemplateFault} :
    render template cwd values = .error fault ↔
      (template = [] ∧ fault = .empty) ∨ template.mapM (fill values) = .error fault := by
  cases template with
  | nil =>
    constructor
    · rintro ⟨⟩
      exact Or.inl ⟨rfl, rfl⟩
    · rintro (⟨-, rfl⟩ | h)
      · rfl
      · cases h
  | cons program args =>
    have hargs {β : Type} (f : List Text → β) :
        (args.mapM (fill values) >>= fun ss => Except.ok (f ss)) = .error fault ↔
          args.mapM (fill values) = .error fault :=
      bind_eq_error_iff_of_ne fun _ => ok_ne_error
    rw [render, List.mapM_cons, bind_eq_error, bind_eq_error]
    constructor
    · rintro (h | ⟨s, hs, h⟩)
      · exact Or.inr (Or.inl h)
      · exact Or.inr (Or.inr ⟨s, hs, (hargs _).2 ((hargs _).1 h)⟩)
    · rintro (⟨⟨⟩, -⟩ | h | ⟨s, hs, h⟩)
      · exact Or.inl h
      · exact Or.inr ⟨s, hs, (hargs _).2 ((hargs _).1 h)⟩

theorem exists_render_iff :
    (∃ c, render template cwd values = .ok c) ↔
      template ≠ [] ∧ ∀ argument ∈ template, ∃ s, fill values argument = .ok s := by
  simp only [render_eq_ok_iff, mapM_eq_ok]
  constructor
  · rintro ⟨c, -, hall⟩
    refine ⟨?_, exists_forall₂_iff.1 ⟨_, hall⟩⟩
    rintro rfl
    cases hall
  · rintro ⟨hne, hall⟩
    obtain ⟨ss, hss⟩ := exists_forall₂_iff.2 hall
    cases hss with
    | nil => exact absurd rfl hne
    | @cons program s args ss hs hss => exact ⟨⟨cwd, s, ss⟩, rfl, .cons hs hss⟩

/-- Rendering fills in every argument, in one pass over the parts that it falls apart into, or
reports the first placeholder that cannot be filled in of the first argument that has one. -/
theorem render_iff_parts (template : CommandTemplate) (cwd : Path) (values : Values) :
    (∀ argument : Text, ∃! p : Parts, p.IsOf argument) ∧
    ((∃ c, render template cwd values = .ok c) ↔
      template ≠ [] ∧ ∀ argument ∈ template, ∃ p : Parts, p.IsOf argument ∧
        p.isClosed = true ∧ ∀ name ∈ p.names, name ∈ keys values) ∧
    (∀ c, render template cwd values = .ok c ↔
      c.cwd = cwd ∧ List.Forall₂ (fun argument s => ∃ p : Parts, p.IsOf argument ∧
        p.Fills values s) template (c.program :: c.args)) ∧
    ∀ fault, render template cwd values = .error fault ↔
      (template = [] ∧ fault = .empty) ∨
        ∃ before argument after, template = before ++ argument :: after ∧
          (∀ a ∈ before, ∃ s, ∃ p : Parts, p.IsOf a ∧ p.Fills values s) ∧
          ∃ p : Parts, p.IsOf argument ∧ p.Fails values argument fault := by
  have hok (argument s : Text) : fill values argument = .ok s ↔
      ∃ p : Parts, p.IsOf argument ∧ p.Fills values s := by
    obtain ⟨p, hp⟩ := Parts.exists_isOf argument
    rw [fill_eq_ok_iff hp, Parts.exists_isOf_and_iff hp]
  have herror (argument : Text) (fault : TemplateFault) : fill values argument = .error fault ↔
      ∃ p : Parts, p.IsOf argument ∧ p.Fails values argument fault := by
    obtain ⟨p, hp⟩ := Parts.exists_isOf argument
    rw [fill_eq_error_iff hp, Parts.exists_isOf_and_iff hp]
  have hfills (argument : Text) : (∃ s, fill values argument = .ok s) ↔
      ∃ p : Parts, p.IsOf argument ∧ p.isClosed = true ∧ ∀ name ∈ p.names, name ∈ keys values := by
    obtain ⟨p, hp⟩ := Parts.exists_isOf argument
    rw [exists_fill_iff hp, Parts.exists_isOf_and_iff hp]
  refine ⟨Parts.existsUnique_isOf, ?_, fun c => ?_, fun fault => ?_⟩
  · simp only [exists_render_iff, hfills]
  · simp only [render_eq_ok_iff, mapM_eq_ok, hok]
  · simp only [render_eq_error_iff, mapM_eq_error, hok, herror]

/-- A value is not looked at again, whatever braces it has. -/
example : render ["{y}{y}".toList] ['/'] [("y".toList, "{y}".toList), ("y".toList, "z".toList)] =
    .ok ⟨['/'], "{y}{y}".toList, []⟩ := by
  cbv

end ErasedBridges.CommandTemplate
