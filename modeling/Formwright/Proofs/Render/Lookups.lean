import Formwright.Proofs.Render.ScalarControls
import Formwright.Render.Form

/-!
# Looking names up

Rendering looks models, fields and relations up in the schema, and nothing else can fail for a name
that is not there: templates, values, errors and the parts of dates have faults of their own. So an
input fails for a lookup only if its field is not known, and a form without relations only if one of
its inputs does, whatever the theme, the context and the options are.

- `Fault.isLookup`, `Resolves`: faults of looking up, and computations that have none.
- `Theme.fill_resolves`, `Drawing.scalar_resolves`, `Drawing.many_resolves`: templates and controls.
- `Renderer.input_resolves`, `Renderer.form_resolves`: inputs and forms.
-/

namespace Formwright

open Outcome

/-- The fault of a model, a field or a relation that is not there. -/
def Fault.isLookup : Fault → Bool
  | .unknownModel _ | .unknownField _ _ | .notHasMany _ _ => true
  | _ => false

/-- The computation does not fail for a name that is not there. -/
abbrev Resolves {α : Type} (x : Except Fault α) : Prop := FailsWith (fun e => e.isLookup = false) x

/-! ## Values -/

namespace Value

theorem lacks_isLookup (v : Value) (operation : String) :
    (v.lacks operation).isLookup = false := by
  unfold lacks
  split
  · rfl
  · rfl

theorem members_resolves (v : Value) : Resolves v.members := by
  unfold members
  split
  · exact .ok _
  · exact .error rfl

theorem membersOrNone_resolves (v : Value) : Resolves v.membersOrNone := by
  unfold membersOrNone
  split
  · exact v.members_resolves
  · exact .ok _

end Value

theorem writtenNumeral_resolves (n : Int) : Resolves (writtenNumeral n) := by
  unfold writtenNumeral
  split
  · exact .ok _
  · exact .error rfl

namespace Errors

theorem sentence_resolves (error : Value) : Resolves (sentence error) := by
  have pair : ∀ code detail : Value, Resolves (pairSentence? code detail) := by
    intro code detail
    unfold pairSentence?
    split
    · exact (writtenNumeral_resolves _).map
    · split
      · exact .ok _
      · split
        · exact .ok _
        · exact .ok _
        · exact .ok _
  unfold sentence
  split
  · exact .ok _
  · exact .ok _
  · exact (pair _ _).map
  · exact .ok _

theorem sentencesOf_resolves (errors : Value) : Resolves (sentencesOf errors) := by
  refine errors.membersOrNone_resolves.bind fun members _ => ?_
  exact .mapM fun error _ => sentence_resolves error

end Errors

/-! ## Templates -/

namespace Template

theorem eval_resolves (scope : Scope) (e : Expr) : Resolves (e.eval scope) := by
  induction e with
  | name n => exact .ok _
  | member of n ih =>
    refine ih.bind fun b _ => ?_
    split
    · exact .error rfl
    · exact .ok _
  | label of ih => exact ih.thenReturn
  | sentences of ih =>
    refine ih.bind fun b _ => ?_
    split
    · exact (Errors.sentencesOf_resolves _).thenReturn
    · exact .ok _

theorem condition_resolves (scope : Scope) (c : Condition) : Resolves (c.eval scope) := by
  induction c with
  | holds e => exact (eval_resolves scope e).map
  | present e => exact (eval_resolves scope e).thenReturn
  | equals e text => exact (eval_resolves scope e).thenReturn
  | negate c ih => exact ih.map

variable (scope : Scope) (escaping : Bool)

theorem parts_resolves (parts : List Part) : Resolves (fillParts scope escaping parts) := by
  induction parts with
  | nil => exact .ok _
  | cons p rest ih =>
    have first : Resolves (p.fill scope escaping) := by
      cases p with
      | text s => exact .ok _
      | reference s => exact .ok _
      | slot e => exact (eval_resolves scope e).map
    exact first.bind fun _ _ => ih.thenReturn

theorem spreadAttrs_resolves (entries : List (Value × Value)) : Resolves (spreadAttrs entries) := by
  induction entries with
  | nil => exact .ok _
  | cons e rest ih =>
    obtain ⟨key, v⟩ := e
    rw [spreadAttrs]
    split
    · exact ih
    · split
      · exact .error rfl
      · split
        · exact .error rfl
        · exact ih.thenReturn

theorem attr_resolves (a : AttrSpec) : Resolves (a.fill scope escaping) := by
  cases a with
  | always name value => exact (parts_resolves scope escaping value).thenReturn
  | «when» c name value =>
    refine (condition_resolves scope c).bind fun holds _ => ?_
    cases holds with
    | false => exact .ok _
    | true => exact (parts_resolves scope escaping value).thenReturn
  | spread e =>
    refine (eval_resolves scope e).bind fun b _ => ?_
    split
    · exact spreadAttrs_resolves _
    · exact .error (Value.lacks_isLookup _ _)
    · exact .error rfl

theorem attrs_resolves (specs : List AttrSpec) : Resolves (fillAttrs scope escaping specs) := by
  induction specs with
  | nil => exact .ok _
  | cons a rest ih => exact (attr_resolves scope escaping a).bind fun _ _ => ih.thenReturn

theorem concatM_resolves {α β : Type} {f : α → Except Fault (List β)} {items : List α}
    (each : ∀ item, Resolves (f item)) : Resolves (concatM f items) := by
  induction items with
  | nil => exact .ok _
  | cons item rest ih => exact (each item).bind fun _ _ => ih.thenReturn

theorem items_resolves (b : Binding) : Resolves b.items := by
  unfold Binding.items
  split
  · exact .ok _
  · split
    · exact .ok _
    · exact .error rfl

mutual

theorem fill_resolves (escaping : Bool) :
    ∀ (n : Node) (scope : Scope), Resolves (Node.fill scope escaping n)
  | .text s, scope => by
    rw [Node.fill]
    exact .ok _
  | .slot e, scope => by
    rw [Node.fill]
    exact (eval_resolves scope e).map
  | .element tag attrs body, scope => by
    rw [Node.fill]
    refine (attrs_resolves scope escaping attrs).bind fun _ _ => ?_
    exact (fillAll_resolves escaping body scope).thenReturn
  | .void tag attrs, scope => by
    rw [Node.fill]
    exact (attrs_resolves scope escaping attrs).thenReturn
  | .choose c yes no, scope => by
    rw [Node.fill]
    refine (condition_resolves scope c).bind fun holds _ => ?_
    cases holds with
    | false => exact fillAll_resolves escaping no scope
    | true => exact fillAll_resolves escaping yes scope
  | .each name e body, scope => by
    rw [Node.fill]
    refine (eval_resolves scope e).bind fun b _ => ?_
    refine (items_resolves b).bind fun items _ => ?_
    exact concatM_resolves fun v => fillAll_resolves escaping body ((name, .value v) :: scope)

theorem fillAll_resolves (escaping : Bool) :
    ∀ (ns : List Node) (scope : Scope), Resolves (Node.fillAll scope escaping ns)
  | [], scope => by
    rw [Node.fillAll]
    exact .ok _
  | n :: rest, scope => by
    rw [Node.fillAll]
    refine (fill_resolves escaping n scope).bind fun _ _ => ?_
    exact (fillAll_resolves escaping rest scope).thenReturn

end

end Template

namespace Theme

theorem fillWithin_resolves (theme : Theme) (scope : Template.Scope) (depth : Nat)
    (name : String) : Resolves (theme.fillWithin scope depth name) := by
  induction depth generalizing name with
  | zero => exact .error rfl
  | succ depth ih =>
    rw [fillWithin]
    split
    · exact .error rfl
    · exact Template.fillAll_resolves _ _ scope
    · refine Template.concatM_resolves fun part => ?_
      cases part with
      | text s => exact .ok _
      | embed included => exact ih included

/-- No template asks the schema for anything. -/
theorem fill_resolves (theme : Theme) (name : String) (scope : Template.Scope) :
    Resolves (theme.fill name scope) := theme.fillWithin_resolves scope theme.maxDepth name

end Theme

/-! ## Dates and times -/

namespace Temporal

theorem normalized_resolves (v : Value) : Resolves (normalized v) := by
  refine (normalized_fails v).mono ?_
  rintro e ⟨rfl, -⟩
  rfl

theorem unitChoices_resolves (options : List (Value × Value)) (today : Date) (span : Int)
    (unit : Unit) : Resolves (unitChoices options today span unit) := by
  unfold unitChoices
  split
  · split
    · split
      · exact .ok _
      · exact .error rfl
    · exact .ok _
  · exact .ok _

theorem selectsAfter_resolves (s : Setting) (parts : List (Unit × Value)) (previous : Option Unit)
    (units : List Unit) : Resolves (s.selectsAfter parts previous units) := by
  induction units generalizing previous with
  | nil => exact .ok _
  | cons unit rest ih =>
    have first : Resolves (s.select parts previous unit) := by
      refine (unitChoices_resolves _ _ _ unit).bind fun _ _ => ?_
      exact (normalized_resolves _).thenReturn
    exact first.bind fun _ _ => (ih (some unit)).thenReturn

theorem Kind.parts_resolves (kind : Kind) (v : Value) : Resolves (kind.parts v) := by
  have date : Resolves (dateParts v) := by
    unfold dateParts
    split
    · exact .ok _
    · exact .error rfl
  have clock : Resolves (clockParts v) := by
    unfold clockParts
    split
    · exact .ok _
    · exact .error rfl
  have clockAfter : ∀ before : List (Unit × Value), Resolves (do
      let clock ← if kind.hasClock then ClockParts.entries <$> clockParts v else pure []
      return before ++ clock) := by
    intro before
    cases kind.hasClock with
    | false => exact .ok _
    | true => exact clock.map.thenReturn
  unfold Kind.parts
  cases kind.hasDate with
  | false => exact clockAfter []
  | true => exact date.map.bind fun _ _ => clockAfter _

theorem Kind.selects_resolves (kind : Kind) (v : Value) (s : Setting) :
    Resolves (kind.selects v s) :=
  (kind.parts_resolves v).bind fun parts _ => selectsAfter_resolves s parts none _

end Temporal

/-! ## Controls -/

namespace Drawing

variable (d : Drawing) (desc : Descriptor) (o : FieldOptions)

theorem fill_resolves (template : String) (values : List (String × Value)) :
    Resolves (d.fill template values) := d.theme.fill_resolves template _

theorem withErrors_resolves {body : Except Fault (List Html)} (h : Resolves body) :
    Resolves (d.withErrors desc body) := by
  have errors : Resolves (d.errors desc.errors) := by
    unfold Drawing.errors
    split
    · exact .ok _
    · exact .ok _
    · exact d.fill_resolves _ _
  exact h.bind fun _ _ => errors.thenReturn

theorem scalar_resolves (kind : ControlKind) (today : Date) :
    Resolves (d.scalar kind desc o today) := by
  have temporal : ∀ t : Temporal.Kind, Resolves (d.temporal t desc o today) := by
    intro t
    exact (t.selects_resolves _ _).bind fun _ _ => d.fill_resolves _ _
  have input : Resolves (d.input desc o) :=
    (writtenNumeral_resolves _).bind fun _ _ => d.fill_resolves _ _
  have bare : Resolves (d.bare kind desc o today) := by
    cases kind with
    | boolean => exact d.fill_resolves _ _
    | textarea => exact d.fill_resolves _ _
    | date => exact temporal .date
    | time => exact temporal .time
    | datetime => exact temporal .datetime
    | file => exact d.fill_resolves _ _
    | select => exact input
    | collection => exact input
    | text => exact input
  exact d.withErrors_resolves desc bare

theorem select_resolves (choices : List SelectOption) : Resolves (d.select desc choices o) :=
  d.withErrors_resolves desc (d.fill_resolves _ _)

theorem literalOption_resolves (item : Value) : Resolves (literalOption item) := by
  unfold literalOption
  split
  · exact .ok _
  · exact .error rfl
  · exact .ok _

theorem literalSelect_resolves (items : List Value) : Resolves (d.literalSelect desc items o) := by
  have choices : Resolves (literalChoices desc items) :=
    .mapM fun item _ => (literalOption_resolves item).thenReturn
  exact choices.bind fun _ _ => d.select_resolves desc o _

theorem many_resolves (items : List Value) (identity : Value → Value) (selected : List Value) :
    Resolves (d.many desc items o identity selected) := by
  have texts : Resolves (items.mapM (memberText (isLiteralCollection items) o identity)) := by
    refine .mapM fun item _ => ?_
    unfold memberText
    split
    · exact literalOption_resolves item
    · exact .ok _
  exact texts.bind fun _ _ => d.withErrors_resolves desc (d.fill_resolves _ _)

end Drawing

/-! ## Forms -/

/-- The choices are listed or were loaded; no function of the form gives them. -/
def FieldOptions.isLoaded (o : FieldOptions) : Bool :=
  match o.collection with
  | some (.computed (.function _)) => false
  | _ => true

namespace Render.Renderer

open Form

variable {r : Renderer} {c : Context} {f : Frame} {field : String} {o : FieldOptions} {m : Model}

section

variable (found : r.schema.model f.model = .ok m)
include found

theorem association?_found : r.schema.association? f.model field = .ok (m.association? field) := by
  unfold Schema.association?
  rw [found]
  rfl

theorem describe_resolves (key : String) : Resolves (r.describe c f field key o) := by
  have errors : Resolves (r.errorsOf c f field) := by
    unfold errorsOf
    split
    · rw [Schema.storageKey, association?_found found]
      exact .ok _
    · exact .ok _
  exact errors.thenReturn

omit found in
theorem itemsOf_resolves (loaded : o.isLoaded = true) (record : Value) :
    Resolves (r.itemsOf o.collection c record) := by
  unfold itemsOf
  split
  · exact .ok _
  · exact .ok _
  · rename_i source given
    cases source with
    | function name => simp [FieldOptions.isLoaded, given] at loaded
    | related model records =>
      exact (FailsWith.ok (records, _)).bind fun _ _ => (Value.membersOrNone_resolves _).thenReturn

theorem association_resolves (loaded : o.isLoaded = true) :
    Resolves (r.association c f field o) := by
  have many : ∀ members, Resolves (r.manyControl c f field o members) := by
    intro members
    refine (describe_resolves found _).bind fun desc _ => ?_
    have selected : Resolves (r.selectedIds f field) := by
      unfold selectedIds
      split
      · exact .ok _
      · exact (Value.membersOrNone_resolves _).map
    refine selected.bind fun _ _ => ?_
    exact (r.drawing.many_resolves _ o members _ _).thenReturn
  have single : ∀ members key, Resolves (r.singleControl c f field o members key) := by
    intro members key
    refine (describe_resolves found key).bind fun desc _ => ?_
    split
    · exact (r.drawing.literalSelect_resolves desc o members).thenReturn
    · exact (r.drawing.select_resolves desc o _).thenReturn
  refine (itemsOf_resolves loaded f.record).bind fun listed _ => ?_
  obtain ⟨members, calls⟩ := listed
  rw [association?_found found]
  show Resolves (if isMany (m.association? field) then _ else _)
  split
  · exact (many members).thenReturn
  · exact (single members _).thenReturn

theorem input_resolves {type : String} (known : m.fieldType field = .ok type)
    (loaded : o.isLoaded = true) :
    Resolves (r.input c f field o) := by
  have typed : r.schema.fieldType f.model field = .ok type := by
    rw [Schema.fieldType, found]
    exact known
  have control : Resolves (r.control c f field o (.ofDeclared type)) := by
    unfold Renderer.control
    split
    · exact (association_resolves found loaded).thenReturn
    · refine FailsWith.thenReturn ?_
      refine (describe_resolves found field).bind fun desc _ => ?_
      exact (r.drawing.scalar_resolves desc o _ c.today).thenReturn
  rw [Renderer.input, typed, ok_bind]
  refine control.bind fun drawn _ => ?_
  obtain ⟨shown, kind, calls⟩ := drawn
  exact (r.drawing.theme.fill_resolves _ _).thenReturn

end

mutual

/-- A part of a form without relations fails for a name only if an input in it does. -/
theorem node_resolves {draw : Drawer} :
    ∀ n : Form.Node, (∀ field o, Form.Node.input field o ∈ n.walk → Resolves (draw f field o)) →
      (∀ field rows o, Form.Node.hasMany field rows o ∉ n.walk) → Resolves (r.node draw c f n)
  | .input field o, inputs, _ => by
    rw [node]
    exact inputs field o (by simp [Node.walk])
  | .fieldset label body o, inputs, flat => by
    rw [node]
    -- what the walk of a group contains is the group and the walk of its body
    simp only [Node.walk, List.mem_cons, reduceCtorEq, false_or] at inputs flat
    refine (nodes_resolves body inputs flat).bind fun _ _ => ?_
    exact (r.drawing.theme.fill_resolves _ _).thenReturn
  | .actions body, inputs, flat => by
    rw [node]
    simp only [Node.walk, List.mem_cons, reduceCtorEq, false_or] at inputs flat
    refine (nodes_resolves body inputs flat).bind fun _ _ => ?_
    exact (r.drawing.theme.fill_resolves _ _).thenReturn
  | .hasMany field rows o, _, flat => by
    exact (flat field rows o (by simp [Node.walk])).elim
  | .content content isMarkup, _, _ => by
    rw [node]
    exact .ok _
  | .script script, _, _ => by
    rw [node]
    exact (r.drawing.theme.fill_resolves _ _).map

theorem nodes_resolves {draw : Drawer} :
    ∀ ns : List Form.Node,
      (∀ field o, Form.Node.input field o ∈ walkAll ns → Resolves (draw f field o)) →
      (∀ field rows o, Form.Node.hasMany field rows o ∉ walkAll ns) → Resolves (r.nodes draw c f ns)
  | [], _, _ => by
    rw [nodes]
    exact .ok _
  | n :: rest, inputs, flat => by
    rw [nodes]
    simp only [walkAll, List.mem_append] at inputs flat
    refine (node_resolves n (fun field o mem => inputs field o (.inl mem))
      (fun field rows o mem => flat field rows o (.inl mem))).bind fun _ _ => ?_
    exact (nodes_resolves rest (fun field o mem => inputs field o (.inr mem))
      (fun field rows o mem => flat field rows o (.inr mem))).thenReturn

end

/-- **Forms without relations.** One whose inputs are all of known fields, and whose choices no
function gives, does not fail for a name that is not there. -/
theorem form_resolves {tree : Tree} (found : r.schema.model c.modelName = .ok m)
    (known : ∀ field o, Form.Node.input field o ∈ tree.walk →
      (m.fieldType field).isOk = true ∧ o.isLoaded = true)
    (flat : ∀ field rows o, Form.Node.hasMany field rows o ∉ tree.walk) :
    Resolves (r.form tree c) := by
  have inputs : ∀ field o, Form.Node.input field o ∈ tree.walk →
      Resolves (r.input c (.ofContext c) field o) := by
    intro field o mem
    obtain ⟨type, typed⟩ := exists_of_isOk (known field o mem).1
    exact input_resolves found typed (known field o mem).2
  refine (nodes_resolves tree.nodes inputs flat).bind fun _ _ => ?_
  exact (r.drawing.theme.fill_resolves _ _).thenReturn

end Render.Renderer

end Formwright
