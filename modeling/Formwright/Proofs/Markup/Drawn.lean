import Formwright.Proofs.Markup.Controls
import Formwright.Proofs.Markup.Filling
import Formwright.Render.Control

/-!
# What the built-in templates draw

The markup of the built-in templates, as far as later files look into it: what stands around a
body, the inputs of a row, and templates that are repeated or draw no controls.

- `Around`: what is put around a body, with the controls that come with it.
- `item_fill`, `row_fill`, `templateRow_fill`: items and rows in full.
- `fieldset_fill`, `item_around`, `fieldset_around`, `actions_around`: items and groups.
- `blockMarkup`, `row_around`: the rows of a relation and one of them.
- `each_fill`: a template that is repeated for some values.
- `fill_unnamed`: templates without names.
-/

namespace Formwright.Template

open Html Outcome

attribute [local simp] Node.fillAll Node.fill fillAttrs AttrSpec.fill fillParts Part.fill Expr.eval
  Condition.eval Binding.value? Binding.html Binding.pieces Binding.isTrue List.lookup_cons
  BuiltIn.var BuiltIn.lf BuiltIn.fixed BuiltIn.filled BuiltIn.hiddenUnlessVisible BuiltIn.rowId

/-! ## Around a body -/

/-- What is put around a body: some controls come after those of the body, and the body is not
looked into. -/
structure Around (around : List Html → List Html) (own : List Html) : Prop where
  controls : ∀ body, controlsAll (around body) = controlsAll body ++ own
  blank : ∀ {name : String} {body body' : List Html}, blankAll name body = blankAll name body' →
    blankAll name (around body) = blankAll name (around body')

/-- The label of an item, with a mark if the field is required. -/
def itemLabel (control : String) (required : Bool) : Option String → List Html
  | none => []
  | some label => [
    .element "label" [⟨.text "class", [.text "label"]⟩, ⟨.text "for", [.text control]⟩]
      (.piece (.text label) :: if required then
        [.element "abbr" [⟨.text "class", [.text "required"]⟩, ⟨.text "title", [.text "required"]⟩]
          [.piece (.text "*")]]
      else []),
    lineFeed]

/-- The control of an item; one that is refreshed on its own is in a box of its own. -/
def itemBody (base : String) (ajax : Bool) (body : List Html) : List Html :=
  if ajax then [
    .element "div" [⟨.text "id", [.text base, .text "-update"]⟩] (lineFeed :: body ++ [lineFeed]),
    lineFeed]
  else body ++ [lineFeed]

theorem item_fill (kind base control : String) (label : Option String)
    (required visible ajax : Bool) (body : List Html) :
    Theme.standard.fill "form/item.html" [
        ("css_class", .value (.text kind)),
        ("base_id", .value (.text base)),
        ("control_id", .value (.text control)),
        ("label", .value (.ofText? label)),
        ("required", .value (.bool required)),
        ("visible", .value (.bool visible)),
        ("ajax", .value (.bool ajax)),
        ("body", .fragment body)] = .ok [
      .element "li"
        (⟨.text "class", [.text kind]⟩ :: ⟨.text "id", [.text base, .text "_input"]⟩ ::
          if visible then [] else [⟨.text "style", [.text "display: none"]⟩])
        (lineFeed :: itemLabel control required label ++ itemBody base ajax body)] := by
  simp only [Theme.standard_fill "form/item.html" BuiltIn.item (by simp [Template.builtIn])]
  cases label <;> cases required <;> cases visible <;> cases ajax <;>
    simp [BuiltIn.item, itemLabel, itemBody, lineFeed, Value.ofText?, Value.isNone, Value.isTrue]

theorem item_around (kind base control : String) (label : Option String)
    (required visible ajax : Bool) :
    ∃ around, Around around [] ∧ ∀ body, Theme.standard.fill "form/item.html" [
        ("css_class", .value (.text kind)),
        ("base_id", .value (.text base)),
        ("control_id", .value (.text control)),
        ("label", .value (.ofText? label)),
        ("required", .value (.bool required)),
        ("visible", .value (.bool visible)),
        ("ajax", .value (.bool ajax)),
        ("body", .fragment body)] = .ok (around body) := by
  refine ⟨_, ⟨fun body => ?_, fun same => ?_⟩,
    item_fill kind base control label required visible ajax⟩
  · cases label <;> cases required <;> cases visible <;> cases ajax <;>
      simp [itemLabel, itemBody, controls, lineFeed]
  · cases label <;> cases required <;> cases visible <;> cases ajax <;>
      simp [itemLabel, itemBody, blank, lineFeed, same]

/-- The label of a group, unless it is empty. -/
def legendMarkup (legend : String) : List Html :=
  if legend == "" then []
  else [.element "legend" [] [.element "span" [] [.piece (.text legend)]], lineFeed]

theorem fieldset_fill (legend : String) (visible : Bool) (body : List Html) :
    Theme.standard.fill "form/fieldset.html" [
        ("legend", .value (.text legend)),
        ("body", .fragment body),
        ("visible", .value (.bool visible))] = .ok [
      .element "fieldset"
        (⟨.text "class", [.text "inputs"]⟩ ::
          if visible then [] else [⟨.text "style", [.text "display: none"]⟩])
        (lineFeed :: legendMarkup legend ++
          [.element "ol" [] (lineFeed :: body ++ [lineFeed]), lineFeed])] := by
  simp only [Theme.standard_fill "form/fieldset.html" BuiltIn.fieldset (by simp [Template.builtIn])]
  by_cases empty : legend = ""
  · subst empty
    cases visible <;> rfl
  · have holds : (legend != "") = true := by simpa using empty
    cases visible <;>
      simp [BuiltIn.fieldset, legendMarkup, lineFeed, Value.isTrue, holds, empty]

theorem fieldset_around (legend : String) (visible : Bool) :
    ∃ around, Around around [] ∧ ∀ body, Theme.standard.fill "form/fieldset.html" [
        ("legend", .value (.text legend)),
        ("body", .fragment body),
        ("visible", .value (.bool visible))] = .ok (around body) := by
  refine ⟨_, ⟨fun body => ?_, fun same => ?_⟩, fieldset_fill legend visible⟩
  · have unnamed : controlsAll (legendMarkup legend) = [] := by
      unfold legendMarkup
      split <;> simp [controls, lineFeed]
    cases visible <;> simp [controls, lineFeed, unnamed]
  · cases visible <;> simp [blank, lineFeed, same]

theorem actions_around : ∃ around, Around around [] ∧ ∀ body,
    Theme.standard.fill "form/actions.html" [("body", .fragment body)] = .ok (around body) := by
  simp only [Theme.standard_fill "form/actions.html" BuiltIn.actions (by simp [Template.builtIn])]
  exact ⟨_, ⟨fun body => by simp [controls], fun same => by simp [blank, same]⟩, fun _ => rfl⟩

/-! ## Rows -/

/-- The rows of a relation, the template of a new one and the link that adds one. -/
def blockMarkup (relation label templateId onclick : String) (rows template : List Html) :
    List Html := [
  .element "div" [⟨.text "class", [.text "has_many ", .text relation]⟩] ([
    lineFeed,
    .element "h3" [] [.piece (.text label)],
    lineFeed] ++ rows ++ [
    lineFeed,
    .element "template" [
        ⟨.text "class", [.text "has-many-template"]⟩,
        ⟨.text "id", [.text templateId]⟩] (lineFeed :: template ++ [lineFeed]),
    lineFeed,
    .element "a" [
        ⟨.text "class", [.text "btn btn-primary"]⟩,
        ⟨.text "href", [.text "#"]⟩,
        ⟨.text "onclick", [.text onclick]⟩]
      [.piece (.text "Add New "), .piece (.text label)],
    lineFeed])]

theorem block_drawn (relation name templateId onclick : String) (rows template : List Html) :
    Theme.standard.fill "form/has_many.html" [
        ("relation", .value (.text relation)),
        ("human_label", .value (.text name)),
        ("rows", .fragment rows),
        ("template", .fragment template),
        ("template_id", .value (.text templateId)),
        ("onclick", .value (.text onclick))] =
      .ok (blockMarkup relation (labelOf (.text name)) templateId onclick rows template) := by
  rw [Theme.standard_fill "form/has_many.html" BuiltIn.hasMany (by simp [Template.builtIn])]
  simp [BuiltIn.hasMany, blockMarkup, lineFeed]

theorem blockMarkup_controls (relation label templateId onclick : String)
    (rows template : List Html) :
    controlsAll (blockMarkup relation label templateId onclick rows template) =
      controlsAll rows ++ controlsAll template := by
  simp [blockMarkup, controls, lineFeed]

theorem blockMarkup_blank {relation label templateId onclick name : String}
    {rows rows' template template' : List Html}
    (sameRows : blankAll name rows = blankAll name rows')
    (sameTemplate : blankAll name template = blankAll name template') :
    blankAll name (blockMarkup relation label templateId onclick rows template) =
      blankAll name (blockMarkup relation label templateId onclick rows' template') := by
  simp [blockMarkup, blank, lineFeed, sameRows, sameTemplate]

/-- The two inputs that say whether a row is to be removed. -/
def destroyInputs (rowId name : String) : List Html := [
  .void "input" [
    ⟨.text "type", [.text "hidden"]⟩,
    ⟨.text "value", [.text "false"]⟩,
    ⟨.text "name", [.text name]⟩],
  .void "input" [
    ⟨.text "type", [.text "checkbox"]⟩,
    ⟨.text "id", [.text rowId, .text "__destroy"]⟩,
    ⟨.text "name", [.text name]⟩,
    ⟨.text "value", [.text "true"]⟩]]

/-- The input that says which record a row is of. -/
def identityInput (rowId name : String) (identity : Value) : Html :=
  .void "input" [
    ⟨.text "id", [.text rowId, .text "_id"]⟩,
    ⟨.text "name", [.text name]⟩,
    ⟨.text "value", [identity.piece]⟩,
    ⟨.text "type", [.text "hidden"]⟩]

/-- The item of the box that removes a row. -/
def removalItem (rowId destroy : String) : Html :=
  .element "li" [⟨.text "class", [.text "boolean input optional"]⟩,
      ⟨.text "id", [.text rowId, .text "__destroy_input"]⟩] [
    lineFeed,
    .void "input" [⟨.text "type", [.text "hidden"]⟩, ⟨.text "value", [.text "false"]⟩,
      ⟨.text "name", [.text destroy]⟩],
    lineFeed,
    .element "label" [⟨.text "class", [.text "label"]⟩,
        ⟨.text "for", [.text rowId, .text "__destroy"]⟩] [
      .void "input" [⟨.text "type", [.text "checkbox"]⟩,
        ⟨.text "id", [.text rowId, .text "__destroy"]⟩, ⟨.text "name", [.text destroy]⟩,
        ⟨.text "value", [.text "true"]⟩],
      .piece (.text " Remove")],
    lineFeed]

theorem row_fill (rowId destroy name : String) (identity : Value) (body : List Html) :
    Theme.standard.fill "form/has_many_fieldset.html" [
        ("fieldset_id", .value (.text rowId)),
        ("body", .fragment body),
        ("identity", .value identity),
        ("identity_name", .value (.text name)),
        ("destroy_name", .value (.text destroy))] = .ok [
      .element "fieldset" [⟨.text "class", [.text "inputs has_many_fields"]⟩,
          ⟨.text "id", [.text rowId]⟩]
        ([lineFeed,
          .element "ol" [] (lineFeed :: body ++ lineFeed ::
            if identity.isNone then [] else [removalItem rowId destroy, lineFeed]),
          lineFeed] ++
          if identity.isNone then [] else [identityInput rowId name identity, lineFeed])] := by
  simp only [Theme.standard_fill "form/has_many_fieldset.html" BuiltIn.hasManyFieldset
    (by simp [Template.builtIn])]
  cases absent : identity.isNone with
  | true => simp [BuiltIn.hasManyFieldset, absent, lineFeed]
  | false =>
    simp [BuiltIn.hasManyFieldset, absent, lineFeed, removalItem, identityInput]

/-- A row is drawn around its body; one with an identity has inputs of its own after it. -/
theorem row_around (rowId destroy name : String) (identity : Value) :
    ∃ around, Around around (if identity.isNone then [] else
        destroyInputs rowId destroy ++ [identityInput rowId name identity]) ∧
      ∀ body, Theme.standard.fill "form/has_many_fieldset.html" [
        ("fieldset_id", .value (.text rowId)),
        ("body", .fragment body),
        ("identity", .value identity),
        ("identity_name", .value (.text name)),
        ("destroy_name", .value (.text destroy))] = .ok (around body) := by
  refine ⟨_, ⟨fun body => ?_, fun same => ?_⟩, row_fill rowId destroy name identity⟩
  · cases identity.isNone <;>
      simp [removalItem, destroyInputs, identityInput, controls, lineFeed]
  · cases identity.isNone <;> simp [removalItem, identityInput, blank, lineFeed, same]

theorem templateRow_fill (rowId : String) (body : List Html) :
    Theme.standard.fill "form/has_many_fieldset.html" [
        ("fieldset_id", .value (.text rowId)),
        ("body", .fragment body),
        ("identity", .value .none)] = .ok [
      .element "fieldset" [⟨.text "class", [.text "inputs has_many_fields"]⟩,
          ⟨.text "id", [.text rowId]⟩]
        [lineFeed, .element "ol" [] (lineFeed :: body ++ [lineFeed]), lineFeed]] := by
  rw [Theme.standard_fill "form/has_many_fieldset.html" BuiltIn.hasManyFieldset
    (by simp [Template.builtIn])]
  simp [BuiltIn.hasManyFieldset, Value.isNone, lineFeed]

/-- The template row has no inputs of its own. -/
theorem templateRow_around (rowId : String) :
    ∃ around, Around around [] ∧ ∀ body, Theme.standard.fill "form/has_many_fieldset.html" [
        ("fieldset_id", .value (.text rowId)),
        ("body", .fragment body),
        ("identity", .value .none)] = .ok (around body) := by
  refine ⟨_, ⟨fun body => ?_, fun same => ?_⟩, templateRow_fill rowId⟩
  · simp [controls, lineFeed]
  · simp [blank, lineFeed, same]

/-! ## The form -/

/-- Before the body of a form stand inputs whose names have no brackets. -/
theorem form_drawn (token : Option String) (put : Bool) :
    ∃ before, (∀ x ∈ controlsAll before, ∃ name, x.name? = some name ∧ '[' ∉ name.toList) ∧
      ∀ body, Theme.standard.fill "form/form.html" [
        ("body", .fragment body),
        ("csrf_token", .value (.ofText? token)),
        ("method_put", .value (.bool put))] = .ok (before ++ body) := by
  simp only [Theme.standard_fill "form/form.html" BuiltIn.form (by simp [Template.builtIn])]
  have isPut : ∀ b, (Value.bool b).isTrue = b := fun _ => rfl
  cases holds : (Value.ofText? token).isTrue with
  | false =>
    cases put <;> simp [BuiltIn.form, holds, isPut]
    · refine ⟨[_, _], ?_, fun _ => rfl⟩
      simp [controls, name?, attrs]
    · refine ⟨[_, _], ?_, fun _ => rfl⟩
      simp [controls, name?, attrs]
  | true =>
    cases put <;> simp [BuiltIn.form, holds, isPut]
    · refine ⟨[_, _], ?_, fun _ => rfl⟩
      simp [controls, name?, attrs]
    · refine ⟨[_, _], ?_, fun _ => rfl⟩
      simp [controls, name?, attrs]

/-! ## Choices -/

/-- All variables stand for values. -/
def ValueScope (scope : Scope) : Prop := ∀ e ∈ scope, ∃ v, e.2 = .value v

theorem eval_value {scope : Scope} (values : ValueScope scope) {e : Expr} {b : Binding}
    (h : e.eval scope = .ok b) : controlsAll (b.html true) = [] := by
  cases b with
  | undefined => rfl
  | value v => rfl
  | fragment body =>
    -- only a variable could stand for a fragment
    cases e with
    | name n =>
      simp only [Expr.eval, Except.ok.injEq] at h
      cases found : scope.lookup n with
      | none => simp [found] at h
      | some bound =>
        obtain ⟨before, after, split, -⟩ := List.lookup_eq_some_iff.mp found
        obtain ⟨v, isValue⟩ := values (n, bound) (by simp [split])
        simp [found] at h
        rw [h] at isValue
        cases isValue
    | member of n =>
      obtain ⟨b', -, h⟩ := bind_eq_ok.mp h
      split at h
      · cases h
      · rename_i v _
        cases field : v.field? n <;> simp [field] at h
    | label of =>
      obtain ⟨b', -, h⟩ := bind_eq_ok.mp h
      cases h
    | sentences of =>
      obtain ⟨b', -, h⟩ := bind_eq_ok.mp h
      split at h
      · obtain ⟨ps, -, h⟩ := bind_eq_ok.mp h
        cases h
      · cases h

theorem fillAll_one (scope : Scope) (escaping : Bool) (n : Node) :
    Node.fillAll scope escaping [n] = Node.fill scope escaping n := by
  simp only [Node.fillAll]
  cases Node.fill scope escaping n <;> simp

/-- A template that is repeated for some values puts out what it puts out for each of them. -/
theorem each_fill {α : Type} {scope : Scope} {name : String} {of : Expr}
    {body : List Template.Node} {toValue : α → Value} (markup : α → List Html) (as : List α)
    (evaluated : of.eval scope = .ok (.value (.list (as.map toValue))))
    (one : ∀ a, Node.fillAll ((name, .value (toValue a)) :: scope) true body = .ok (markup a)) :
    Node.fill scope true (.each name of body) = .ok (as.flatMap markup) := by
  have all : ∀ as : List α,
      concatM (fun v => Node.fillAll ((name, .value v) :: scope) true body) (as.map toValue) =
        .ok (as.flatMap markup) := by
    intro as
    induction as with
    | nil => rfl
    | cons a rest ih =>
      rw [List.map_cons, concatM, one, ih]
      rfl
  rw [Node.fill, evaluated, ok_bind]
  exact all as

theorem controls_concatM {α : Type} {f : α → Except Fault (List Html)} {items : List α}
    {hs : List Html} (h : concatM f items = .ok hs) {P : Html → Prop}
    (each : ∀ item ∈ items, ∀ part, f item = .ok part → ∀ x ∈ controlsAll part, P x) :
    ∀ x ∈ controlsAll hs, P x := by
  induction items generalizing hs with
  | nil => cases h; simp
  | cons item rest ih =>
    obtain ⟨first, drawn, h⟩ := bind_eq_ok.mp h
    obtain ⟨others, drawnRest, h⟩ := bind_eq_ok.mp h
    cases h
    intro x hx
    rcases List.mem_append.mp (controlsAll_append first others ▸ hx) with hx | hx
    · exact each item List.mem_cons_self first drawn x hx
    · exact ih drawnRest (fun i hi => each i (List.mem_cons_of_mem item hi)) x hx

/-- The attribute gives no name. -/
def AttrSpec.isUnnamed : AttrSpec → Bool
  | .always name _ => name != "name"
  | .when _ name _ => name != "name"
  | .spread _ => false

mutual

/-- No element of the template has a name. -/
def Node.isUnnamed : Node → Bool
  | .text _ => true
  | .slot _ => true
  | .element _ attrs body => attrs.all AttrSpec.isUnnamed && Node.areUnnamed body
  | .void _ attrs => attrs.all AttrSpec.isUnnamed
  | .choose _ yes no => Node.areUnnamed yes && Node.areUnnamed no
  | .each _ _ body => Node.areUnnamed body

/-- No element of the templates has a name. -/
def Node.areUnnamed : List Node → Bool
  | [] => true
  | n :: rest => n.isUnnamed && Node.areUnnamed rest

end

/-- The attribute is not of this name, whatever it is filled with. -/
def AttrSpec.lacks (key : String) : AttrSpec → Bool
  | .always name _ => name != key
  | .when _ name _ => name != key
  | .spread _ => false

theorem fillAttrs_lacks (key : String) {scope : Scope} {specs : List AttrSpec}
    (lacks : specs.all (AttrSpec.lacks key) = true) {attrs : List Attr}
    (h : fillAttrs scope true specs = .ok attrs) : attr? key attrs = none := by
  induction specs generalizing attrs with
  | nil => cases h; rfl
  | cons spec specs ih =>
    rw [List.all_cons, Bool.and_eq_true] at lacks
    obtain ⟨first, filled, h⟩ := bind_eq_ok.mp h
    obtain ⟨rest, filledRest, h⟩ := bind_eq_ok.mp h
    cases h
    have none_rest := ih lacks.2 filledRest
    cases spec with
    | always name value =>
      obtain ⟨ps, -, filled⟩ := bind_eq_ok.mp filled
      cases filled
      have other : name ≠ key := by simpa [AttrSpec.lacks] using lacks.1
      simpa [other] using none_rest
    | «when» c name value =>
      obtain ⟨holds, -, filled⟩ := bind_eq_ok.mp filled
      cases holds with
      | false => cases filled; exact none_rest
      | true =>
        obtain ⟨ps, -, filled⟩ := bind_eq_ok.mp filled
        cases filled
        have other : name ≠ key := by simpa [AttrSpec.lacks] using lacks.1
        simpa [other] using none_rest
    | spread e => cases lacks.1

theorem AttrSpec.isUnnamed_eq : AttrSpec.isUnnamed = AttrSpec.lacks "name" := by
  funext spec
  cases spec <;> rfl

theorem fillAttrs_unnamed {scope : Scope} {specs : List AttrSpec}
    (unnamed : specs.all AttrSpec.isUnnamed = true) {attrs : List Attr}
    (h : fillAttrs scope true specs = .ok attrs) : attr? "name" attrs = none :=
  fillAttrs_lacks "name" (AttrSpec.isUnnamed_eq ▸ unnamed) h

theorem ValueScope.cons {scope : Scope} (values : ValueScope scope) (name : String) (v : Value) :
    ValueScope ((name, .value v) :: scope) := by
  rintro entry (_ | ⟨_, mem⟩)
  · exact ⟨v, rfl⟩
  · exact values entry mem

mutual

theorem fill_unnamed : ∀ (n : Node), n.isUnnamed = true → ∀ {scope : Scope}, ValueScope scope →
    ∀ {hs : List Html}, Node.fill scope true n = .ok hs → controlsAll hs = []
  | .text s, _, _, _, hs, h => by cases h; rfl
  | .slot e, _, scope, values, hs, h => by
    obtain ⟨b, evaluated, rfl⟩ := map_eq_ok.mp h
    exact eval_value values evaluated
  | .element tag specs body, unnamed, scope, values, hs, h => by
    simp only [Node.isUnnamed, Bool.and_eq_true] at unnamed
    obtain ⟨attrs, filled, h⟩ := bind_eq_ok.mp h
    obtain ⟨inner, filledBody, h⟩ := bind_eq_ok.mp h
    cases h
    rw [controlsAll_cons, controls_element (fillAttrs_unnamed unnamed.1 filled),
      fillAll_unnamed body unnamed.2 values filledBody]
    rfl
  | .void tag specs, unnamed, scope, values, hs, h => by
    obtain ⟨attrs, filled, h⟩ := bind_eq_ok.mp h
    cases h
    simp [controls, fillAttrs_unnamed unnamed filled]
  | .choose c yes no, unnamed, scope, values, hs, h => by
    simp only [Node.isUnnamed, Bool.and_eq_true] at unnamed
    obtain ⟨holds, -, h⟩ := bind_eq_ok.mp h
    cases holds with
    | false => exact fillAll_unnamed no unnamed.2 values h
    | true => exact fillAll_unnamed yes unnamed.1 values h
  | .each name e body, unnamed, scope, values, hs, h => by
    obtain ⟨b, -, h⟩ := bind_eq_ok.mp h
    obtain ⟨items, -, h⟩ := bind_eq_ok.mp h
    refine List.eq_nil_iff_forall_not_mem.mpr (controls_concatM h fun v _ part drawn => ?_)
    rw [fillAll_unnamed body unnamed (values.cons name v) drawn]
    simp

theorem fillAll_unnamed : ∀ (ns : List Node), Node.areUnnamed ns = true → ∀ {scope : Scope},
    ValueScope scope → ∀ {hs : List Html}, Node.fillAll scope true ns = .ok hs →
    controlsAll hs = []
  | [], _, _, _, _, h => by cases h; rfl
  | n :: rest, unnamed, scope, values, hs, h => by
    simp only [Node.areUnnamed, Bool.and_eq_true] at unnamed
    obtain ⟨first, filled, h⟩ := bind_eq_ok.mp h
    obtain ⟨others, filledRest, h⟩ := bind_eq_ok.mp h
    cases h
    rw [controlsAll_append, fill_unnamed n unnamed.1 values filled,
      fillAll_unnamed rest unnamed.2 values filledRest]
    rfl

end

end Formwright.Template
