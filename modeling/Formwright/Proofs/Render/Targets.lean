import Formwright.Proofs.Markup.Elements
import Formwright.Proofs.Render.Listeners
import Formwright.Proofs.Render.Places
import Formwright.Proofs.Render.Rows

/-!
# What labels and listeners point at

The label of an item and the listener of its control point at the id of the control. An element with
this id is there unless the control is composite: the selects of a date or time, and check boxes and
radio buttons, have ids of their own, which only start with the one that is pointed at.

- `Drawing.Answers`: what ids the markup of a control has.
- `Renderer.isComposite`: the controls that are made of parts.
- `ItemOf`: the item of an input, with the id that is pointed at.
- `form_targets`: all labels and listeners of a form.
-/

namespace Formwright

open Html Outcome Template

/-! ## Ids of controls -/

namespace Drawing

variable {d : Drawing} {desc : Descriptor} {o : FieldOptions} {hs : List Html}

/-- The markup of a control holds no items, and no label stands in it on its own. If the control is
one element, this element has the id; if it is composite, the ids of its parts are longer. -/
structure Answers (id : String) (composite : Bool) (hs : List Html) : Prop where
  noItem : ∀ x ∈ elementsAll hs, x.tag? ≠ some "li"
  noLabel : ∀ x ∈ hs, x.tag? ≠ some "label"
  whole : composite = false → id ∈ idsAll hs
  parts : composite = true → ∀ x ∈ idsAll hs, ∃ part, x = id ++ "_" ++ part

/-- A template without items and labels draws none. -/
theorem Answers.of_fill (standard : d.theme = .standard) (template : String)
    (body : List Template.Node) (listed : (template, body) ∈ Template.builtIn)
    (noItem : ((Node.partsAll body).all fun part => part.1 != "li") = true)
    (noLabel : ((Node.partsAll body).all fun part => part.1 != "label") = true)
    {values : List (String × Value)} (h : d.fill template values = .ok hs) {id : String}
    {composite : Bool} (whole : composite = false → id ∈ idsAll hs)
    (parts : composite = true → ∀ x ∈ idsAll hs, ∃ part, x = id ++ "_" ++ part) :
    Answers id composite hs := by
  refine ⟨fill_noTag standard template "li" body listed noItem h, fun x hx isLabel => ?_, whole,
    parts⟩
  exact fill_noTag standard template "label" body listed noLabel h x (mem_elementsAll hx isLabel)
    isLabel

theorem mem_idsAll {id : String} {x : Html} (hx : x ∈ elementsAll hs) (named : x.id? = some id) :
    id ∈ idsAll hs :=
  List.mem_filterMap.mpr ⟨x, hx, named⟩

/-- Attributes that come from a table have its id. -/
theorem spread_id {attrs more : List (String × Value)} {id : String} {out : List Attr}
    (unset : ∀ a ∈ more, a.1 ≠ "id") (own : attrs.reverse.lookup "id" = some (.text id))
    (spread : spreadAttrs (overlay attrs more) = .ok out) : attr? "id" out = some id :=
  attr?_spread spread ((named?_overlay attrs unset).trans own) rfl

theorem noClass (unset : Leaves o "id") : ∀ a ∈ o.htmlOptions ++ [controlClass], a.1 ≠ "id" :=
  unset.withClass (by decide)

theorem errors_answer (standard : d.theme = .standard) {errors : Option (List Value)} (id : String)
    (h : d.errors errors = .ok hs) : idsAll hs = [] ∧ Answers id true hs := by
  unfold Drawing.errors at h
  split at h
  · cases h
    exact ⟨rfl, by simp, by simp, (absurd · Bool.noConfusion), by simp⟩
  · cases h
    exact ⟨rfl, by simp, by simp, (absurd · Bool.noConfusion), by simp⟩
  · have noIds : idsAll hs = [] := by
      unfold Drawing.fill at h
      rw [standard, Theme.standard_fill "controls/errors.html" BuiltIn.errors
        (by simp [Template.builtIn])] at h
      exact fillAll_noIds BuiltIn.errors (by decide) (valueScope _) h
    refine ⟨noIds, Answers.of_fill standard "controls/errors.html" BuiltIn.errors
      (by simp [Template.builtIn]) (by decide) (by decide) h (absurd · Bool.noConfusion)
      fun _ x hx => ?_⟩
    rw [noIds] at hx
    cases hx

/-- Errors after a control change nothing. -/
theorem Answers.withErrors (standard : d.theme = .standard) {id : String} {composite : Bool}
    {body : Except Fault (List Html)} (h : d.withErrors desc body = .ok hs)
    (answers : ∀ first, body = .ok first → Answers id composite first) :
    Answers id composite hs := by
  obtain ⟨first, drawn, h⟩ := bind_eq_ok.mp h
  obtain ⟨rest, sentences, h⟩ := bind_eq_ok.mp h
  cases h
  obtain ⟨noIds, errors⟩ := errors_answer standard id sentences
  have own := answers first drawn
  have same : idsAll (first ++ rest) = idsAll first := by
    rw [idsAll_append, noIds, List.append_nil]
  constructor
  · intro x hx
    rw [elementsAll_append, List.mem_append] at hx
    rcases hx with hx | hx
    · exact own.noItem x hx
    · exact errors.noItem x hx
  · intro x hx
    rcases List.mem_append.mp hx with hx | hx
    · exact own.noLabel x hx
    · exact errors.noLabel x hx
  · intro one
    rw [same]
    exact own.whole one
  · intro composite x hx
    rw [same] at hx
    exact own.parts composite x hx

/-! ### Text controls and single selects -/

theorem checkbox_answers (standard : d.theme = .standard) (unset : Leaves o "id")
    (h : d.checkbox desc o = .ok hs) : Answers desc.id false hs := by
  refine .of_fill standard "controls/checkbox.html" BuiltIn.checkbox (by simp [Template.builtIn])
    (by decide) (by decide) h (fun _ => ?_) nofun
  unfold Drawing.checkbox Drawing.fill at h
  rw [standard, Theme.standard_fill "controls/checkbox.html" BuiltIn.checkbox
    (by simp [Template.builtIn])] at h
  -- the box is the last of three nodes
  obtain ⟨hidden, -, h⟩ := bind_eq_ok.mp h
  obtain ⟨rest, filled, h⟩ := bind_eq_ok.mp h
  cases h
  obtain ⟨feed, -, filled⟩ := bind_eq_ok.mp filled
  obtain ⟨box, filledBox, filled⟩ := bind_eq_ok.mp filled
  cases filled
  obtain ⟨element, drawn, noMore⟩ := bind_eq_ok.mp filledBox
  cases noMore
  obtain ⟨attrs, filledAttrs, drawn⟩ := bind_eq_ok.mp drawn
  cases drawn
  obtain ⟨own, spread, filledAttrs⟩ := bind_eq_ok.mp filledAttrs
  cases filledAttrs
  have named := spread_id unset rfl spread
  refine mem_idsAll (x := .void "input" (own ++ [])) (by simp) ?_
  rw [List.append_nil]
  exact named

theorem textarea_answers (standard : d.theme = .standard) (unset : Leaves o "id")
    (h : d.textarea desc o = .ok hs) : Answers desc.id false hs := by
  refine .of_fill standard "controls/textarea.html" BuiltIn.textarea (by simp [Template.builtIn])
    (by decide) (by decide) h (fun _ => ?_) nofun
  unfold Drawing.textarea at h
  rw [textareaTemplate_fill standard] at h
  obtain ⟨attrs, spread, rfl⟩ := exceptMap_eq_ok.mp h
  exact mem_idsAll List.mem_cons_self (spread_id (noClass unset) rfl spread)

theorem inputTemplate_answers (standard : d.theme = .standard) {attrs : List (String × Value)}
    {id : String} (unset : Leaves o "id") (own : attrs.reverse.lookup "id" = some (.text id))
    (h : d.fill "controls/input.html"
      [("attrs", .table (overlay attrs (o.htmlOptions ++ [controlClass])))] = .ok hs) :
    Answers id false hs := by
  refine .of_fill standard "controls/input.html" BuiltIn.input (by simp [Template.builtIn])
    (by decide) (by decide) h (fun _ => ?_) nofun
  rw [inputTemplate_fill standard] at h
  obtain ⟨attrs, spread, rfl⟩ := exceptMap_eq_ok.mp h
  exact mem_idsAll List.mem_cons_self (spread_id (noClass unset) own spread)

theorem input_answers (standard : d.theme = .standard) (unset : Leaves o "id")
    (h : d.input desc o = .ok hs) : Answers desc.id false hs := by
  obtain ⟨maxlength, -, h⟩ := bind_eq_ok.mp h
  exact inputTemplate_answers standard unset rfl h

theorem select_answers (standard : d.theme = .standard) (unset : Leaves o "id")
    {choices : List SelectOption} (h : d.select desc choices o = .ok hs) :
    Answers desc.id false hs := by
  refine Answers.withErrors standard h fun first drawn => ?_
  refine .of_fill standard "controls/select.html" BuiltIn.select (by simp [Template.builtIn])
    (by decide) (by decide) drawn (fun _ => ?_) nofun
  rw [selectTemplate_fill standard] at drawn
  obtain ⟨attrs, spread, rfl⟩ := exceptMap_eq_ok.mp drawn
  exact mem_idsAll List.mem_cons_self (spread_id (noClass unset) rfl spread)

/-! ### Dates and times -/

theorem selectsAfter_id {setting : Temporal.Setting} {parts : List (Temporal.Unit × Value)}
    {units : List Temporal.Unit} {previous : Option Temporal.Unit} {selects : List Temporal.Select}
    (h : setting.selectsAfter parts previous units = .ok selects) :
    ∀ s ∈ selects, s.id = setting.id ++ "_" ++ s.unit.name := by
  induction units generalizing previous selects with
  | nil => cases h; simp
  | cons unit rest ih =>
    obtain ⟨first, built, h⟩ := bind_eq_ok.mp h
    obtain ⟨others, builtRest, h⟩ := bind_eq_ok.mp h
    cases h
    intro s hs
    rcases List.mem_cons.mp hs with rfl | hs
    · obtain ⟨choices, -, built⟩ := bind_eq_ok.mp built
      obtain ⟨current, -, built⟩ := bind_eq_ok.mp built
      cases built
      rfl
    · exact ih builtRest s hs

theorem choices_noIds (choices : List SelectOption) :
    idsAll (choices.flatMap fun c => [optionMarkup c, lineFeed]) = [] := by
  induction choices with
  | nil => rfl
  | cons c rest ih =>
    obtain ⟨value, label, selected⟩ := c
    rw [List.flatMap_cons, idsAll_append, ih]
    cases selected <;> rfl

/-- The selects of a date or time are what has ids in it. -/
theorem units_ids (selects : List Temporal.Select) :
    idsAll (selects.flatMap fun s => separatorMarkup s.separator ++ [unitMarkup s, lineFeed]) =
      selects.map (·.id) := by
  have separator : ∀ mark : Option String, idsAll (separatorMarkup mark) = [] := by
    intro mark
    unfold separatorMarkup
    split
    · rfl
    · split <;> rfl
  have unit : ∀ s : Temporal.Select, idsAll [unitMarkup s, lineFeed] = [s.id] := by
    intro s
    have inner : idsAll (lineFeed :: (s.choices.map choiceOption).flatMap fun c =>
        [optionMarkup c, lineFeed]) = [] := choices_noIds _
    have feed : idsAll [lineFeed] = [] := rfl
    rw [← List.singleton_append, idsAll_append, unitMarkup, idsAll_element, inner, feed]
    rfl
  induction selects with
  | nil => rfl
  | cons s rest ih =>
    rw [List.flatMap_cons, idsAll_append, idsAll_append, separator, unit, ih]
    rfl

theorem temporal_answers (standard : d.theme = .standard) {kind : Temporal.Kind} {today : Date}
    (h : d.temporal kind desc o today = .ok hs) : Answers desc.id true hs := by
  obtain ⟨selects, built, h⟩ := bind_eq_ok.mp h
  obtain ⟨stored, -, built⟩ := bind_eq_ok.mp built
  refine .of_fill standard "controls/datetime.html" BuiltIn.datetime (by simp [Template.builtIn])
    (by decide) (by decide) h (absurd · Bool.noConfusion) fun _ id hid => ?_
  rw [temporalTemplate_fill standard] at h
  cases h
  rw [units_ids] at hid
  obtain ⟨s, mem, rfl⟩ := List.mem_map.mp hid
  exact ⟨s.unit.name, selectsAfter_id built s mem⟩

/-! ### Scalar controls -/

theorem bare_answers (standard : d.theme = .standard) (unset : Leaves o "id") {kind : ControlKind}
    {today : Date} (h : d.bare kind desc o today = .ok hs) :
    Answers desc.id kind.temporal?.isSome hs := by
  cases kind with
  | boolean => exact checkbox_answers standard unset h
  | textarea => exact textarea_answers standard unset h
  | date => exact temporal_answers standard h
  | time => exact temporal_answers standard h
  | datetime => exact temporal_answers standard h
  | file => exact inputTemplate_answers standard unset rfl h
  | select => exact input_answers standard unset h
  | collection => exact input_answers standard unset h
  | text => exact input_answers standard unset h

/-! ### Choices of any number of members -/

/-- Boxes and buttons have ids that are longer than the one of their control. -/
theorem boxes_answer {style : CollectionStyle} {selected : List String}
    (group label type : String) (texts : List (String × String)) :
    ∀ x ∈ idsAll (boxesMarkup desc style selected group label type texts),
      ∃ part, x = desc.id ++ "_" ++ part := by
  intro x hx
  have inBoxes : x ∈ texts.flatMap fun t => idsAll [
      boxMarkup label type (desc.id ++ "_" ++ t.1) (memberName desc style t.1)
        (memberChoice selected t), lineFeed] := by
    rw [← idsAll_flatMap]
    simpa [boxesMarkup, lineFeed] using hx
  obtain ⟨t, -, hx⟩ := List.mem_flatMap.mp inBoxes
  refine ⟨t.1, ?_⟩
  simpa [boxMarkup, boxInput, lineFeed] using hx

theorem many_answers (standard : d.theme = .standard) {items : List Value}
    {identity : Value → Value} {selected : List Value}
    (h : d.many desc items o identity selected = .ok hs) :
    Answers desc.id (o.style.getD .select != .select) hs := by
  rw [many_eq standard] at h
  obtain ⟨texts, -, h⟩ := bind_eq_ok.mp h
  refine Answers.withErrors standard h fun first drawn => ?_
  cases drawn
  generalize o.style.getD .select = style
  have noItem : ∀ x ∈ elementsAll (manyMarkup desc style (selected.map Value.toText) texts),
      x.tag? ≠ some "li" :=
    fill_noTag standard "controls/collection.html" "li" BuiltIn.collection
      (by simp [Template.builtIn]) (by decide) (manyTemplate_fill standard texts)
  -- the hidden input has no id, so the ids are those of the members
  have ids : idsAll (manyMarkup desc style (selected.map Value.toText) texts) =
      idsAll (membersMarkup desc style (selected.map Value.toText) texts) := rfl
  cases style with
  | checkBoxes =>
    refine ⟨noItem, ?_, fun whole => absurd whole (by decide), fun _ => ?_⟩
    · simp [manyMarkup, membersMarkup, boxesMarkup, emptyInput, lineFeed, tag?]
    · exact boxes_answer "check-boxes" "checkbox" "checkbox" texts
  | radio =>
    refine ⟨noItem, ?_, fun whole => absurd whole (by decide), fun _ => ?_⟩
    · simp [manyMarkup, membersMarkup, boxesMarkup, emptyInput, lineFeed, tag?]
    · exact boxes_answer "radio-buttons" "radio" "radio" texts
  | select =>
    refine ⟨noItem, ?_, fun _ => ?_, fun composite => absurd composite (by decide)⟩
    · simp [manyMarkup, membersMarkup, listMarkup, emptyInput, lineFeed, tag?]
    · rw [ids, membersMarkup, listMarkup, idsAll_element]
      exact List.mem_append_left _ (List.mem_singleton_self desc.id)

end Drawing

/-! ## Labels of items -/

/-- The target of the label of an item. -/
def Html.labelTarget? : Html → Option String
  | .element "li" _ body =>
    (body.filterMap fun x =>
      if x.tag? = some "label" then attr? "for" x.attrs else none).head?
  | _ => none

theorem Html.tag_of_labelTarget {x : Html} {id : String} (h : x.labelTarget? = some id) :
    x.tag? = some "li" := by
  unfold Html.labelTarget? at h
  split at h
  · rfl
  · cases h

/-! ## Composite controls -/

namespace Render

open Form

namespace Renderer

variable {r : Renderer} {c : Context} {f : Frame} {field : String} {o : FieldOptions}

/-- The control has no element of its own id: it is a date or time in parts, or check boxes or radio
buttons. -/
def isComposite (r : Renderer) (model field : String) (o : FieldOptions) : Bool :=
  r.picksMany model field o && o.style.getD .select != .select ||
    (r.kind? model field o).any (·.temporal?.isSome)

theorem drawn_answers (standard : r.drawing.theme = .standard) (unset : Drawing.Leaves o "id")
    {shown : Shown} (h : Drawn r c f field o shown) :
    Drawing.Answers shown.descriptor.id (r.isComposite f.model field o) shown.html := by
  cases h with
  | many key described drawn many kind =>
    have composite : r.isComposite f.model field o = (o.style.getD .select != .select) := by
      simp [isComposite, many, kind]
    rw [composite]
    exact Drawing.many_answers standard drawn
  | single described drawn one kind =>
    have composite : r.isComposite f.model field o = false := by
      simp [isComposite, one, kind]
    rw [composite]
    exact Drawing.select_answers standard unset drawn
  | @scalar desc kind html key described drawn one resolved =>
    have composite : r.isComposite f.model field o = kind.temporal?.isSome := by
      simp [isComposite, one, resolved]
    rw [composite]
    exact Drawing.Answers.withErrors standard drawn fun first bare =>
      Drawing.bare_answers standard unset bare

/-- A composite control is pointed at by the id of its field or of its chosen identities. -/
theorem key_of_composite (composite : r.isComposite f.model field o = true) :
    r.inputKey f.model field o = field ∨ r.inputKey f.model field o = idsKey field := by
  rcases Bool.or_eq_true _ _ |>.mp composite with many | temporal
  · right
    simp only [picksMany, Bool.and_eq_true] at many
    rw [inputKey, if_pos many.1.1, if_pos many.1.2]
  · left
    by_cases given : o.collection.isSome = true
    · simp [kind?, given] at temporal
    · rw [inputKey, if_neg given]

theorem ne_suffixed (s t : String) (other : t ≠ "") : s ≠ s ++ t := by
  intro same
  have lengths := congrArg (fun u : String => u.toList.length) same
  have positive : t.toList ≠ [] := by simpa using other
  simp only [String.toList_append, List.length_append] at lengths
  have := List.length_pos_iff.mpr positive
  omega

/-- The id that is pointed at is not that of the item or of the box around the control. -/
theorem id_ne_own (composite : r.isComposite f.model field o = true) (suffix : String)
    (own : suffix = "_input" ∨ suffix = "-update") :
    f.scope.elementId (r.inputKey f.model field o) ≠ f.scope.elementId field ++ suffix := by
  rcases key_of_composite composite with key | key
  · rw [key]
    refine ne_suffixed _ _ ?_
    rcases own with rfl | rfl <;> decide
  · -- the last characters differ
    rw [key]
    intro same
    have ends := congrArg (fun u : String => u.toList.getLast?) same
    simp only [FieldScope.elementId, idsKey, String.toList_append, List.getLast?_append] at ends
    rcases own with rfl | rfl
    · exact absurd (show some 's' = some 't' from ends) (by decide)
    · exact absurd (show some 's' = some 'e' from ends) (by decide)

/-! ## Items -/

/-- The item is that of an input of the form, the id the one that its label and its listener point
at; an element with the id is in the item unless the control is composite. -/
def ItemOf (r : Renderer) (c : Context) (ns : List Form.Node) (item : Html) (id : String) : Prop :=
  ∃ (path : List String) (v : Visit),
    Placed r ns c.modelName path v.frame.model (.input v.field v.options) ∧ v.DrawnAs r c item ∧
      id = v.controlId r ∧
      (id ∈ idsAll [item] ↔ r.isComposite v.frame.model v.field v.options = false)

theorem itemLabel_elements (control : String) (required : Bool) (label : Option String) :
    (∀ x ∈ elementsAll (Template.itemLabel control required label), x.tag? ≠ some "li") ∧
      idsAll (Template.itemLabel control required label) = [] := by
  cases label <;> cases required <;> simp [Template.itemLabel, lineFeed, tag?]

theorem itemBody_elements (base : String) (ajax : Bool) {body : List Html}
    (noItem : ∀ x ∈ elementsAll body, x.tag? ≠ some "li") :
    (∀ x ∈ elementsAll (Template.itemBody base ajax body), x.tag? ≠ some "li") ∧
      idsAll (Template.itemBody base ajax body) =
        (if ajax then [base ++ "-update"] else []) ++ idsAll body := by
  cases ajax with
  | false => simpa [Template.itemBody, lineFeed] using noItem
  | true => simpa [Template.itemBody, lineFeed, tag?, contentOf, String.join] using noItem

/-- The label of an item points at its control, whatever the control is. -/
theorem labelTarget_item {attrs : List Attr} {base control : String} {required ajax : Bool}
    {label : Option String} {body : List Html} {id : String}
    (noLabel : ∀ x ∈ body, x.tag? ≠ some "label")
    (h : (Html.element "li" attrs (lineFeed :: Template.itemLabel control required label ++
      Template.itemBody base ajax body)).labelTarget? = some id) : id = control := by
  have noTarget : (Template.itemBody base ajax body).filterMap (fun x =>
      if x.tag? = some "label" then attr? "for" x.attrs else none) = [] := by
    refine List.filterMap_eq_nil_iff.mpr fun x hx => if_neg ?_
    cases ajax with
    | false =>
      rcases List.mem_append.mp hx with hx | hx
      · exact noLabel x hx
      · obtain rfl := List.mem_singleton.mp hx
        simp [lineFeed, tag?]
    | true =>
      simp only [Template.itemBody, if_true, List.mem_cons, List.not_mem_nil, or_false] at hx
      rcases hx with rfl | rfl <;> simp [lineFeed, tag?]
  unfold Html.labelTarget? at h
  simp only [List.cons_append, List.filterMap_cons, List.filterMap_append, noTarget] at h
  cases label with
  | none => simp [Template.itemLabel, lineFeed, tag?] at h
  | some label => simpa [Template.itemLabel, lineFeed, tag?, Html.attrs, eq_comm] using h

/-- The item of an input, and what is in it. -/
theorem input_item (standard : r.drawing.theme = .standard) (unset : Drawing.Leaves o "id")
    {out : Output} (h : r.input c f field o = .ok out) :
    ∃ attrs body, out.html = [.element "li" attrs body] ∧
      (∀ x ∈ elementsAll body, x.tag? ≠ some "li") ∧
      (∀ id, (Html.element "li" attrs body).labelTarget? = some id →
        id = f.scope.elementId (r.inputKey f.model field o)) ∧
      (f.scope.elementId (r.inputKey f.model field o) ∈ idsAll out.html ↔
        r.isComposite f.model field o = false) := by
  obtain ⟨kind, shown, drawn, item⟩ := input_inv h
  have answers := drawn_answers standard unset drawn
  unfold Renderer.item at item
  rw [standard, Template.item_fill] at item
  rw [← drawn.id_eq]
  have html := (Except.ok.inj item).symm
  obtain ⟨noItemLabel, noIds⟩ := itemLabel_elements shown.descriptor.id shown.descriptor.required
    shown.descriptor.label
  obtain ⟨noItemBody, bodyIds⟩ :=
    itemBody_elements (f.scope.elementId field) o.ajax answers.noItem
  refine ⟨_, _, html, ?_, fun id => labelTarget_item answers.noLabel, ?_⟩
  · intro x hx
    rw [List.cons_append, elementsAll_cons, elementsAll_append, List.mem_append,
      List.mem_append] at hx
    rcases hx with hx | hx | hx
    · cases hx
    · exact noItemLabel x hx
    · exact noItemBody x hx
  · have ids : idsAll out.html = (f.scope.elementId field ++ "_input") ::
        ((if o.ajax then [f.scope.elementId field ++ "-update"] else []) ++ idsAll shown.html) := by
      rw [html, idsAll_element, List.cons_append, lineFeed, idsAll_piece, idsAll_append, noIds,
        bodyIds]
      simp [contentOf, String.join]
    rw [ids]
    constructor
    · intro mem
      by_contra composite
      have composite : r.isComposite f.model field o = true := by simpa using composite
      rw [drawn.id_eq] at mem
      rcases List.mem_cons.mp mem with same | mem
      · exact id_ne_own composite "_input" (Or.inl rfl) same
      · rcases List.mem_append.mp mem with mem | mem
        · cases ajax : o.ajax with
          | false => simp [ajax] at mem
          | true =>
            rw [ajax, if_pos rfl, List.mem_singleton] at mem
            exact id_ne_own composite "-update" (Or.inr rfl) mem
        · obtain ⟨part, longer⟩ := answers.parts composite _ mem
          rw [drawn.id_eq, String.append_assoc] at longer
          exact ne_suffixed _ ("_" ++ part) (by simp) longer
    · intro one
      exact List.mem_cons_of_mem _ (List.mem_append_right _ (answers.whole one))

/-! ## Walking the form -/

/-- Every listener is bound to the id of an item in the markup, and the label of every item points at
the id of the item, unless it points at an element that is there anyway. -/
structure Aimed (r : Renderer) (c : Context) (ns : List Form.Node) (out : Output) : Prop where
  listeners : ∀ l ∈ out.listeners, ∃ item ∈ elementsAll out.html, ItemOf r c ns item l.controlId
  labels : ∀ item ∈ elementsAll out.html, ∀ id, item.labelTarget? = some id →
    ItemOf r c ns item id ∨ id ∈ idsAll [item]

variable {ns : List Form.Node} {out body : Output}

/-- What is put around aimed markup has no items of its own, or labels that point at an element. -/
theorem Aimed.around (aimed : Aimed r c ns body) (listeners : ∀ l ∈ out.listeners, l ∈ body.listeners)
    (kept : ∀ x ∈ elementsAll body.html, x ∈ elementsAll out.html)
    (only : ∀ x ∈ elementsAll out.html, x.tag? = some "li" → x ∈ elementsAll body.html ∨
      ∀ id, x.labelTarget? = some id → id ∈ idsAll [x]) : Aimed r c ns out := by
  constructor
  · intro l hl
    obtain ⟨item, mem, isItem⟩ := aimed.listeners l (listeners l hl)
    exact ⟨item, kept item mem, isItem⟩
  · intro item mem id target
    rcases only item mem (Html.tag_of_labelTarget target) with inside | own
    · exact aimed.labels item inside id target
    · exact Or.inr (own id target)

theorem Aimed.lines {parts : List Output} (each : ∀ part ∈ parts, Aimed r c ns part) :
    Aimed r c ns (.lines parts) := by
  have inPart : ∀ part ∈ parts, ∀ x ∈ elementsAll part.html,
      x ∈ elementsAll (Output.lines parts).html := by
    intro part mem x hx
    rw [Output.lines, elementsAll_joinLines, List.flatMap_map]
    exact List.mem_flatMap.mpr ⟨part, mem, hx⟩
  constructor
  · intro l hl
    obtain ⟨part, mem, hl⟩ := List.mem_flatMap.mp hl
    obtain ⟨item, inside, isItem⟩ := (each part mem).listeners l hl
    exact ⟨item, inPart part mem item inside, isItem⟩
  · intro item mem id target
    rw [Output.lines, elementsAll_joinLines, List.flatMap_map] at mem
    obtain ⟨part, isPart, inside⟩ := List.mem_flatMap.mp mem
    exact (each part isPart).labels item inside id target

theorem Aimed.of_noItem (listeners : out.listeners = [])
    (noItem : ∀ x ∈ elementsAll out.html, x.tag? ≠ some "li") : Aimed r c ns out := by
  constructor
  · rw [listeners]
    simp
  · intro item mem id target
    exact absurd (Html.tag_of_labelTarget target) (noItem item mem)

theorem input_aimed (standard : r.drawing.theme = .standard) (unset : Drawing.Leaves o "id")
    {path : List String} (placed : Placed r ns c.modelName path f.model (.input field o))
    (h : r.input c f field o = .ok out) : Aimed r c ns out := by
  obtain ⟨attrs, inner, html, noItem, labelled, present⟩ := input_item standard unset h
  have isItem : ItemOf r c ns (.element "li" attrs inner)
      (f.scope.elementId (r.inputKey f.model field o)) :=
    ⟨path, ⟨f, field, o⟩, placed, ⟨out, h, html⟩, rfl, html ▸ present⟩
  constructor
  · intro l hl
    rw [input_listeners h] at hl
    refine ⟨.element "li" attrs inner, ?_, ?_⟩
    · rw [html]
      exact List.mem_cons_self
    · unfold listenersOf at hl
      split at hl
      · rw [List.mem_singleton.mp hl]
        exact isItem
      · cases hl
  · intro item mem id target
    rw [html, elementsAll_cons, elements_element, elementsAll_nil, List.append_nil] at mem
    rcases List.mem_cons.mp mem with rfl | inside
    · exact Or.inl (labelled id target ▸ isItem)
    · exact absurd (Html.tag_of_labelTarget target) (noItem item inside)

/-- The elements of the box that removes a row: the label points at the box. -/
theorem removal_labelTarget {rowId destroy id : String}
    (target : (Template.removalItem rowId destroy).labelTarget? = some id) :
    id ∈ idsAll [Template.removalItem rowId destroy] := by
  simp [Template.removalItem, Html.labelTarget?, lineFeed, tag?, Html.attrs, contentOf,
    String.join] at target ⊢
  exact Or.inr target.symm

theorem row_aimed (standard : r.drawing.theme = .standard) {row : Frame}
    (aimed : Aimed r c ns body) (h : r.row row field body = .ok out) : Aimed r c ns out := by
  obtain ⟨listeners, kept⟩ := row_keeps h
  refine aimed.around ?_ (kept standard).subset ?_
  · rw [listeners]
    split <;> simp
  · obtain ⟨html, filled, h⟩ := bind_eq_ok.mp h
    cases h
    rw [standard, Template.row_fill] at filled
    cases filled
    intro x hx isItem
    cases absent : (r.schema.identity row.record).isNone with
    | true =>
      simp [Output.after, Output.around, absent, lineFeed] at hx
      rcases hx with rfl | rfl | hx
      · simp [tag?] at isItem
      · simp [tag?] at isItem
      · exact Or.inl hx
    | false =>
      simp [Output.after, Output.around, absent, lineFeed] at hx
      rcases hx with rfl | rfl | hx | hx | hx
      · simp [tag?] at isItem
      · simp [tag?] at isItem
      · exact Or.inl hx
      · -- the item of the box, and three elements that are no items
        right
        simp only [Template.removalItem, elements_element, elements_void, elementsAll_cons,
          List.mem_cons] at hx
        rcases hx with rfl | hx
        · exact fun id => removal_labelTarget
        · simp [lineFeed] at hx
          rcases hx with rfl | rfl | rfl <;> simp [tag?] at isItem
      · obtain rfl := List.mem_singleton.mp hx
        simp [tag?] at isItem

theorem templateRow_aimed (standard : r.drawing.theme = .standard) {row : Frame}
    (aimed : Aimed r c ns body) (h : r.templateRow row field body = .ok out) :
    Aimed r c ns out := by
  obtain ⟨html, filled, h⟩ := bind_eq_ok.mp h
  cases h
  rw [standard, Template.templateRow_fill] at filled
  cases filled
  refine aimed.around (by simp [Output.after, Output.around, Output.silent]) ?_ ?_
  · intro x hx
    simp [Output.after, Output.around, lineFeed, hx]
  · intro x hx isItem
    simp [Output.after, Output.around, lineFeed] at hx
    rcases hx with rfl | rfl | hx
    · simp [tag?] at isItem
    · simp [tag?] at isItem
    · exact Or.inl hx

theorem hasMany_aimed (standard : r.drawing.theme = .standard) {drawn : List Output}
    {template : Output} (each : ∀ part ∈ drawn, Aimed r c ns part)
    (aimed : Aimed r c ns template) (h : r.hasMany f field drawn template = .ok out) :
    Aimed r c ns out := by
  obtain ⟨html, filled, h⟩ := bind_eq_ok.mp h
  cases h
  rw [standard] at filled
  have rowsKept := Theme.standard_sublist "form/has_many.html" "rows" BuiltIn.hasMany
    (by simp [Template.builtIn]) (by decide) rfl filled
  have templateKept := Theme.standard_sublist "form/has_many.html" "template" BuiltIn.hasMany
    (by simp [Template.builtIn]) (by decide) rfl filled
  have rows := Aimed.lines each
  constructor
  · intro l hl
    rcases List.mem_append.mp hl with hl | hl
    · obtain ⟨item, mem, isItem⟩ := rows.listeners l hl
      exact ⟨item, rowsKept.subset mem, isItem⟩
    · obtain ⟨item, mem, isItem⟩ := aimed.listeners l hl
      exact ⟨item, templateKept.subset mem, isItem⟩
  · intro item mem id target
    have inside := Theme.standard_mem "form/has_many.html" "li" BuiltIn.hasMany
      (by simp [Template.builtIn]) (by decide) filled mem (Html.tag_of_labelTarget target)
    simp only [Template.fragmentElements, List.flatMap_cons, List.flatMap_nil, List.nil_append,
      List.append_nil, List.mem_append] at inside
    rcases inside with inside | inside
    · exact rows.labels item inside id target
    · exact aimed.labels item inside id target

/-- A template that puts its body out and has no items keeps markup aimed. -/
theorem Aimed.of_template (aimed : Aimed r c ns body) (template : String)
    (nodes : List Template.Node) (listed : (template, nodes) ∈ Template.builtIn)
    (shows : Template.Node.showsAny "body" nodes = true)
    (noItem : ((Template.Node.partsAll nodes).all fun part => part.1 != "li") = true)
    {scope : Template.Scope} (bound : scope.lookup "body" = some (.fragment body.html))
    (only : Template.fragmentElements scope = elementsAll body.html)
    (filled : Theme.standard.fill template scope = .ok out.html)
    (listeners : out.listeners = body.listeners) : Aimed r c ns out := by
  have kept := Theme.standard_sublist template "body" nodes listed shows bound filled
  refine aimed.around (by simp [listeners]) kept.subset fun x hx isItem => Or.inl ?_
  exact only ▸ Theme.standard_mem template "li" nodes listed noItem filled hx isItem

/-- **Labels and listeners, node by node.** -/
theorem aimed_invariant (standard : r.drawing.theme = .standard) :
    Invariant r (r.input c) c (fun _ => True)
      (fun n f => n.Everywhere (Form.Node.Leaves "id") ∧
        ∃ path, Placed r ns c.modelName path f.model n)
      (fun _ out => Aimed r c ns out) (fun _ out => Aimed r c ns out) where
  input := by
    rintro f field o out ⟨keeps, path, placed⟩ drawn
    exact input_aimed standard (Node.everywhere_self keeps : Form.Node.Leaves "id" _) placed drawn
  content := by
    rintro f content isMarkup -
    exact Aimed.of_noItem rfl (by simp [Output.ofHtml])
  script := by
    rintro f script out - drawn
    obtain ⟨html, filled, rfl⟩ := exceptMap_eq_ok.mp drawn
    rw [standard] at filled
    refine Aimed.of_noItem rfl fun x hx isItem => ?_
    have inside := Theme.standard_mem "form/script.html" "li" BuiltIn.script
      (by simp [Template.builtIn]) (by decide) filled hx isItem
    cases inside
  lines := Aimed.lines
  group := by
    rintro f label body o ⟨keeps, path, placed⟩ n hn
    exact ⟨Node.everywhere_group keeps n hn, path, placed.grouped hn⟩
  fieldset := by
    rintro f label body o inner out - aimed drawn
    obtain ⟨html, filled, drawn⟩ := bind_eq_ok.mp drawn
    cases drawn
    rw [standard] at filled
    exact aimed.of_template "form/fieldset.html" BuiltIn.fieldset (by simp [Template.builtIn])
      (by decide) (by decide) rfl (by simp [Template.fragmentElements]) filled rfl
  grouped := by
    rintro f body ⟨keeps, path, placed⟩ n hn
    exact ⟨Node.everywhere_actions keeps n hn, path, placed.action hn⟩
  actions := by
    rintro f body inner out - aimed drawn
    obtain ⟨html, filled, drawn⟩ := bind_eq_ok.mp drawn
    cases drawn
    rw [standard] at filled
    exact aimed.of_template "form/actions.html" BuiltIn.actions (by simp [Template.builtIn])
      (by decide) (by decide) rfl (by simp [Template.fragmentElements]) filled rfl
  relation := by
    rintro f field rows o rel ⟨keeps, path, placed⟩ found
    have met : ∀ row : Frame, row.model = rel.related → (rows row.record).Met (fun n f =>
        n.Everywhere (Form.Node.Leaves "id") ∧
          ∃ path, Placed r ns c.modelName path f.model n) row := by
      intro row model
      refine RowForm.met_of_given fun n mem => ?_
      have below := Node.everywhere_rows keeps row.record
      refine ⟨RowForm.everywhere_given below n mem, path ++ [field], ?_⟩
      rw [model, related_eq found]
      exact placed.row row.record mem
    exact ⟨fun i record _ => ⟨trivial, met (rowFrame rel f field i record) rfl⟩, trivial,
      met (templateFrame rel f field) rfl⟩
  row := by
    rintro f field body out - aimed drawn
    exact row_aimed standard aimed drawn
  templateRow := by
    rintro f field body out - aimed drawn
    exact templateRow_aimed standard aimed drawn
  block := by
    rintro f field rows o rel drawn template out - - each aimed drawnBlock
    refine hasMany_aimed standard (fun part mem => ?_) aimed drawnBlock
    obtain ⟨i, record, -, aimedPart⟩ := each part mem
    exact aimedPart

/-- **What labels and listeners point at.** Every listener of the script is bound to the id of an
input's item in the markup, and the label of every item points at the id of the item's input, the
labels of the boxes that remove rows aside. An element with this id is in the item unless the control
is composite. -/
theorem form_targets (r : Renderer) (standard : r.drawing.theme = .standard) (tree : Tree)
    (c : Context) (keeps : Form.Node.AllEverywhere (Form.Node.Leaves "id") tree.nodes)
    (out : Rendered) (h : r.form tree c = .ok out) :
    ∃ listeners, out.script = readyScript listeners ∧
      (∀ l ∈ listeners, ∃ item ∈ elementsAll out.html, ItemOf r c tree.nodes item l.controlId) ∧
      (∀ item ∈ elementsAll out.html, ∀ id, item.labelTarget? = some id →
        ItemOf r c tree.nodes item id ∨ id ∈ idsAll [item]) := by
  obtain ⟨parts, drawn, h⟩ := bind_eq_ok.mp h
  obtain ⟨html, filled, h⟩ := bind_eq_ok.mp h
  cases h
  rw [standard] at filled
  have each := (aimed_invariant standard).nodes_holds
    (fun n mem => ⟨Node.allEverywhere_iff.mp keeps n mem, [], .top mem⟩) drawn
  have whole : Aimed r c tree.nodes ⟨html, (Output.lines parts).listeners, []⟩ :=
    (Aimed.lines each).of_template "form/form.html" BuiltIn.form (by simp [Template.builtIn])
      (by decide) (by decide) rfl (by simp [Template.fragmentElements]) filled rfl
  exact ⟨_, rfl, whole.listeners, whole.labels⟩

/-- Contacts with a date of birth. -/
def birthdayBook : Renderer where
  schema := ⟨[⟨"contact", [⟨"name", "string"⟩, ⟨"born", "date"⟩], [], "id"⟩], "id"⟩
  drawing := ⟨.standard, .standard⟩

/-- A name and a date of birth, both with a script. -/
def birthdayForm : Tree := ⟨"contact", [
  .input "name" { FieldOptions.standard with change := some (.script "greet();") },
  .input "born" { FieldOptions.standard with change := some (.script "greet();") }]⟩

/-- A new contact. -/
def newContact : Context where
  record := .none
  modelName := "contact"
  params := []
  errors := none
  required := []
  today := .first
  mode := .new
  csrfToken := none

theorem form_targets_newContact :
    ∃ out, birthdayBook.form birthdayForm newContact = .ok out ∧
      ∀ item ∈ elementsAll out.html, ∀ id, item.labelTarget? = some id →
        ItemOf birthdayBook newContact birthdayForm.nodes item id ∨ id ∈ idsAll [item] := by
  obtain ⟨out, drawn⟩ : ∃ out, birthdayBook.form birthdayForm newContact = .ok out :=
    exists_of_isOk (by decide +kernel)
  have keeps : Form.Node.AllEverywhere (Form.Node.Leaves "id") birthdayForm.nodes := by
    simp [birthdayForm, Form.Node.AllEverywhere, Form.Node.Everywhere, Form.Node.Leaves,
      Drawing.Leaves, FieldOptions.standard]
  obtain ⟨listeners, -, -, labels⟩ :=
    form_targets birthdayBook rfl birthdayForm newContact keeps out drawn
  exact ⟨out, drawn, labels⟩

/-- The date of birth has a label and a listener that point at nothing. -/
theorem born_pointless : ∃ out, birthdayBook.form birthdayForm newContact = .ok out ∧
    out.script = readyScript [⟨"contact_name", "greet();"⟩, ⟨"contact_born", "greet();"⟩] ∧
    (∃ item ∈ elementsAll out.html, item.labelTarget? = some "contact_born") ∧
    "contact_born" ∉ idsAll out.html := by
  obtain ⟨out, drawn⟩ : ∃ out, birthdayBook.form birthdayForm newContact = .ok out :=
    exists_of_isOk (by decide +kernel)
  have facts : (birthdayBook.form birthdayForm newContact).toOption.elim false (fun out =>
      out.script == readyScript [⟨"contact_name", "greet();"⟩, ⟨"contact_born", "greet();"⟩] &&
      (elementsAll out.html).any (fun item => item.labelTarget? == some "contact_born") &&
      !(idsAll out.html).contains "contact_born") = true := by
    decide +kernel
  rw [drawn] at facts
  simp only [Except.toOption, Option.elim_some, Bool.and_eq_true, beq_iff_eq, List.any_eq_true,
    Bool.not_eq_true', List.contains_eq_mem, decide_eq_false_iff_not] at facts
  exact ⟨out, drawn, facts.1.1, facts.1.2, facts.2⟩

end Renderer

end Render

end Formwright
