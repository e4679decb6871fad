import Formwright.Proofs.Markup.Elements

/-!
# The controls of a field

Every control is named by its descriptor: text controls and single selects have the name itself,
check boxes have it twice, the selects of a date or time have the name with their unit, and a choice
of any number of members has names that start with it. The texts and choices that a control shows
are those of its value.

- `named?_overlay`: the attributes of a control, options of the field over its own.
- `fill_noTag`: tags that no element of a control has.
- `textarea_drawn`, `input_drawn`, `select_drawn`: text controls and single selects in full.
- `many_eq`: choices of any number of members in full.
- `bare_names`, `many_names`: the names of all controls.
-/

namespace Formwright.Drawing

open Html Outcome Template

variable {d : Drawing} {desc : Descriptor} {o : FieldOptions} {hs : List Html}

/-! ## Attributes -/

/-- The options of the field do not set the attribute. -/
def Leaves (o : FieldOptions) (name : String) : Prop := ∀ a ∈ o.htmlOptions, a.1 ≠ name

theorem lookup_eq_none_of_leaves {values : List (String × Value)} {name : String}
    (unset : ∀ a ∈ values, a.1 ≠ name) : values.reverse.lookup name = none := by
  rw [List.lookup_eq_none_iff]
  intro a ha
  simpa using (unset a (List.mem_reverse.mp ha)).symm

theorem named?_overlay (attrs : List (String × Value)) {more : List (String × Value)}
    {name : String}
    (unset : ∀ a ∈ more, a.1 ≠ name) :
    Value.named? (overlay attrs more) name = attrs.reverse.lookup name := by
  have merged := Value.named?_tableOf (attrs ++ more) name
  rw [List.reverse_append, List.lookup_append, lookup_eq_none_of_leaves unset, Option.none_or]
    at merged
  exact merged

theorem Leaves.withClass {name : String} (unset : Leaves o name) (other : name ≠ "class") :
    ∀ a ∈ o.htmlOptions ++ [controlClass], a.1 ≠ name := by
  intro a ha
  rcases List.mem_append.mp ha with ha | ha
  · exact unset a ha
  · rw [List.mem_singleton.mp ha]
    exact other.symm

/-! ## Tags -/

theorem valueScope (values : List (String × Value)) :
    ValueScope (values.map fun v => (v.1, .value v.2)) := by
  intro e he
  obtain ⟨v, -, rfl⟩ := List.mem_map.mp he
  exact ⟨v.2, rfl⟩

theorem fill_noTag (standard : d.theme = .standard) (template tag : String)
    (body : List Template.Node) (listed : (template, body) ∈ Template.builtIn)
    (other : ((Node.partsAll body).all fun part => part.1 != tag) = true)
    {values : List (String × Value)} (h : d.fill template values = .ok hs) :
    ∀ x ∈ elementsAll hs, x.tag? ≠ some tag := by
  intro x hx isTag
  unfold Drawing.fill at h
  rw [standard] at h
  have ofFragment := Theme.standard_mem template tag body listed other h hx isTag
  rw [fragmentElements_values (valueScope values)] at ofFragment
  cases ofFragment

/-! ## Errors -/

theorem errors_controls (standard : d.theme = .standard) {errors : Option (List Value)}
    (h : d.errors errors = .ok hs) : controlsAll hs = [] := by
  unfold Drawing.errors at h
  split at h
  · cases h; rfl
  · cases h; rfl
  · unfold Drawing.fill at h
    rw [standard, Theme.standard_fill "controls/errors.html" BuiltIn.errors
      (by simp [Template.builtIn])] at h
    exact fillAll_unnamed BuiltIn.errors rfl (valueScope _) h

theorem withErrors_controls (standard : d.theme = .standard)
    {body : Except Fault (List Html)} (h : d.withErrors desc body = .ok hs) :
    ∃ first, body = .ok first ∧ controlsAll hs = controlsAll first := by
  obtain ⟨first, drawn, h⟩ := bind_eq_ok.mp h
  obtain ⟨rest, sentences, h⟩ := bind_eq_ok.mp h
  cases h
  refine ⟨first, drawn, ?_⟩
  rw [controlsAll_append, errors_controls standard sentences, List.append_nil]

/-! ## Text controls -/

/-- A check box and the hidden input before it share the name of the control. -/
theorem checkbox_drawn (standard : d.theme = .standard) (unset : Leaves o "name")
    (h : d.checkbox desc o = .ok hs) :
    ∃ hidden box, controlsAll hs = [hidden, box] ∧ hidden.name? = some desc.name ∧
      box.name? = some desc.name := by
  unfold Drawing.checkbox at h
  generalize isTable : overlay [("type", Value.text "checkbox"), ("id", .text desc.id),
    ("name", .text desc.name), ("value", .text "true"),
    ("checked", if isChecked desc.value then .text "checked" else .none)] o.htmlOptions = table at h
  have found : Value.named? table "name" = some (.text desc.name) := by
    rw [← isTable, named?_overlay _ unset]
    rfl
  unfold Drawing.fill at h
  rw [standard, Theme.standard_fill "controls/checkbox.html" BuiltIn.checkbox
    (by simp [Template.builtIn])] at h
  simp [BuiltIn.checkbox, Node.fillAll, Node.fill, fillAttrs, AttrSpec.fill, fillParts, Part.fill,
    Expr.eval, Binding.value?, Binding.pieces, BuiltIn.var, BuiltIn.lf, BuiltIn.fixed,
    BuiltIn.filled, Value.field?, found, bind_eq_ok] at h
  obtain ⟨attrs, spread, rfl⟩ := h
  have named := attr?_spread spread found rfl
  refine ⟨.void "input" [⟨.text "type", [.text "hidden"]⟩, ⟨.text "value", [.text "false"]⟩,
    ⟨.text "name", [.text desc.name]⟩], .void "input" attrs, ?_, ?_, named⟩
  · simp [controls, named]
  · simp [name?, Html.attrs]

theorem checkbox_names (standard : d.theme = .standard) (unset : Leaves o "name")
    (h : d.checkbox desc o = .ok hs) : ∀ x ∈ controlsAll hs, x.name? = some desc.name := by
  obtain ⟨hidden, box, controls, hiddenNamed, boxNamed⟩ := checkbox_drawn standard unset h
  intro x hx
  rw [controls] at hx
  rcases List.mem_cons.mp hx with rfl | hx
  · exact hiddenNamed
  · rwa [List.mem_singleton.mp hx]

theorem textareaTemplate_fill (standard : d.theme = .standard) (table : List (Value × Value))
    (text : Option String) :
    d.fill "controls/textarea.html" [("attrs", .table table), ("value", .ofText? text)] =
      (spreadAttrs table).map fun attrs =>
        [.element "textarea" attrs (text.toList.map fun s => .piece (.text s))] := by
  unfold Drawing.fill
  rw [standard, Theme.standard_fill "controls/textarea.html" BuiltIn.textarea
    (by simp [Template.builtIn])]
  simp only [BuiltIn.textarea, List.map_cons, List.map_nil, Node.fillAll, Node.fill, fillAttrs,
    AttrSpec.fill, Expr.eval, BuiltIn.var, List.lookup_cons, beq_self_eq_true, Option.getD_some,
    ok_bind, Binding.value?]
  cases spreadAttrs table with
  | error e => rfl
  | ok attrs => cases text <;> simp [Except.map] <;> rfl

/-- A text area has the name of its control and holds the text of the value. -/
theorem textarea_drawn (standard : d.theme = .standard) (unset : Leaves o "name")
    (h : d.textarea desc o = .ok hs) :
    ∃ attrs, attr? "name" attrs = some desc.name ∧ hs = [.element "textarea" attrs
      ((displayText desc.value).toList.map fun s => .piece (.text s))] := by
  unfold Drawing.textarea at h
  rw [textareaTemplate_fill standard] at h
  obtain ⟨attrs, spread, rfl⟩ := exceptMap_eq_ok.mp h
  have found := named?_overlay [("id", .text desc.id), ("name", .text desc.name),
    ("placeholder", .ofText? o.prompt)] (unset.withClass (by decide))
  exact ⟨attrs, attr?_spread spread found rfl, rfl⟩

theorem inputTemplate_fill (standard : d.theme = .standard) (table : List (Value × Value)) :
    d.fill "controls/input.html" [("attrs", .table table)] =
      (spreadAttrs table).map fun attrs => [.void "input" attrs] := by
  unfold Drawing.fill
  rw [standard, Theme.standard_fill "controls/input.html" BuiltIn.input
    (by simp [Template.builtIn])]
  simp only [BuiltIn.input, List.map_cons, List.map_nil, Node.fillAll, Node.fill, fillAttrs,
    AttrSpec.fill, Expr.eval, BuiltIn.var, List.lookup_cons, beq_self_eq_true, Option.getD_some,
    ok_bind, Binding.value?]
  cases spreadAttrs table with
  | error e => rfl
  | ok attrs => simp [Except.map]

theorem inputTemplate_drawn (standard : d.theme = .standard) {table : List (Value × Value)}
    {name : String} (found : Value.named? table "name" = some (.text name))
    (h : d.fill "controls/input.html" [("attrs", .table table)] = .ok hs) :
    ∃ attrs, spreadAttrs table = .ok attrs ∧ attr? "name" attrs = some name ∧
      hs = [.void "input" attrs] := by
  rw [inputTemplate_fill standard] at h
  obtain ⟨attrs, spread, rfl⟩ := exceptMap_eq_ok.mp h
  exact ⟨attrs, spread, attr?_spread spread found rfl, rfl⟩

theorem void_names {tag name : String} {attrs : List Attr}
    (named : attr? "name" attrs = some name) :
    ∀ x ∈ controlsAll [.void tag attrs], x.name? = some name := by
  intro x hx
  rw [controlsAll_cons, controls_void named, controlsAll_nil, List.append_nil,
    List.mem_singleton] at hx
  rw [hx]
  exact named

theorem file_drawn (standard : d.theme = .standard) (unset : Leaves o "name")
    (h : d.file desc o = .ok hs) :
    ∃ attrs, attr? "name" attrs = some desc.name ∧ hs = [.void "input" attrs] := by
  have found := named?_overlay [("type", .text "file"), ("id", .text desc.id),
    ("name", .text desc.name), ("value", fileName desc.value)] (unset.withClass (by decide))
  obtain ⟨attrs, -, named, drawn⟩ := inputTemplate_drawn standard found h
  exact ⟨attrs, named, drawn⟩

/-- A single-line input has the name of its control and, unless the options say otherwise, the text
of the value. -/
theorem input_drawn (standard : d.theme = .standard) (unset : Leaves o "name")
    (h : d.input desc o = .ok hs) :
    ∃ attrs, attr? "name" attrs = some desc.name ∧ hs = [.void "input" attrs] ∧
      (Leaves o "value" → ∀ s, displayText desc.value = some s →
        attr? "value" attrs = some s) := by
  obtain ⟨maxlength, -, h⟩ := bind_eq_ok.mp h
  have found := named?_overlay [("type", .text (inputType o)), ("id", .text desc.id),
    ("name", .text desc.name), ("value", .ofText? (displayText desc.value)),
    ("maxlength", .text maxlength), ("placeholder", .ofText? o.prompt)]
    (unset.withClass (by decide))
  obtain ⟨attrs, spread, named, drawn⟩ := inputTemplate_drawn standard found h
  refine ⟨attrs, named, drawn, fun unsetValue s shown => ?_⟩
  refine attr?_spread spread (v := .text s) ?_ rfl
  rw [named?_overlay _ (unsetValue.withClass (by decide)), shown]
  rfl

/-! ## Single selects -/

/-- One choice of a select. -/
def optionMarkup (c : SelectOption) : Html :=
  .element "option" (⟨.text "value", [.text c.value]⟩ ::
    if c.selected then [⟨.text "selected", [.text "selected"]⟩] else []) [.piece (.text c.label)]

/-- Choices are put out one by one, whatever else the values have that they are read from. -/
theorem choices_fill {α : Type} {scope : Scope} {of : Expr} (toValue : α → Value)
    (choice : α → SelectOption) (as : List α)
    (evaluated : of.eval scope = .ok (.value (.list (as.map toValue))))
    (value : ∀ a, (toValue a).field? "value" = some (.text (choice a).value))
    (label : ∀ a, (toValue a).field? "label" = some (.text (choice a).label))
    (selected : ∀ a, (toValue a).field? "selected" = some (.bool (choice a).selected)) :
    Node.fill scope true (BuiltIn.choices of) =
      .ok (as.flatMap fun a => [optionMarkup (choice a), lineFeed]) := by
  refine each_fill _ as evaluated fun a => ?_
  cases marked : (choice a).selected <;>
    simp [Node.fillAll, Node.fill, fillAttrs, AttrSpec.fill, fillParts, Part.fill, Expr.eval,
      Condition.eval, Binding.value?, Binding.pieces, Binding.html, Binding.isTrue, BuiltIn.var,
      BuiltIn.filled, BuiltIn.lf, Value.isTrue, value, label, selected, marked, optionMarkup,
      lineFeed]

theorem choices_drawn (scope : Scope) (choices : List SelectOption)
    (listed : scope.lookup "options" = some (.value (.list (choices.map SelectOption.toValue)))) :
    Node.fill scope true (BuiltIn.choices (BuiltIn.var "options")) =
      .ok (choices.flatMap fun c => [optionMarkup c, lineFeed]) :=
  choices_fill SelectOption.toValue id choices
    (by simp [BuiltIn.var, Expr.eval, listed]) (fun _ => rfl) (fun _ => rfl) fun _ => rfl

theorem choices_unnamed (choices : List SelectOption) :
    controlsAll (choices.flatMap fun c => [optionMarkup c, lineFeed]) = [] := by
  rw [controlsAll_flatMap, List.flatMap_eq_nil_iff]
  rintro ⟨value, label, selected⟩ -
  cases selected <;> rfl

/-- The empty choice for a prompt. -/
def promptMarkup : Option String → List Html
  | none => []
  | some s =>
    if s == "" then []
    else [.element "option" [⟨.text "value", [.text ""]⟩] [.piece (.text s)], lineFeed]

theorem prompt_fill (scope : Scope) (prompt : Option String)
    (found : scope.lookup "prompt" = some (.value (.ofText? prompt))) :
    Node.fill scope true (.choose (.holds (BuiltIn.var "prompt")) [
      .element "option" [BuiltIn.fixed "value" ""] [.slot (BuiltIn.var "prompt")],
      BuiltIn.lf] []) = .ok (promptMarkup prompt) := by
  have evaluated : (BuiltIn.var "prompt").eval scope = .ok (.value (.ofText? prompt)) := by
    simp [BuiltIn.var, Expr.eval, found]
  cases prompt with
  | none =>
    simp [Node.fill, Node.fillAll, Condition.eval, evaluated, Binding.isTrue, Binding.value?,
      Value.ofText?, Value.isTrue, promptMarkup]
  | some s =>
    by_cases empty : s = ""
    · subst empty
      simp [Node.fill, Node.fillAll, Condition.eval, evaluated, Binding.isTrue, Binding.value?,
        Value.ofText?, Value.isTrue, promptMarkup]
    · have holds : (Value.text s).isTrue = true := by simpa [Value.isTrue] using empty
      simp [Node.fill, Node.fillAll, Condition.eval, evaluated, Binding.isTrue, Binding.value?,
        Value.ofText?, holds, fillAttrs, AttrSpec.fill, fillParts, Part.fill, BuiltIn.fixed,
        BuiltIn.lf, Binding.html, promptMarkup, empty, lineFeed]

theorem Node.fill_element (scope : Scope) (tag : String) (specs : List AttrSpec)
    (body : List Node) :
    Node.fill scope true (.element tag specs body) = do
      let attrs ← fillAttrs scope true specs
      return [.element tag attrs (← Node.fillAll scope true body)] := by
  rw [Node.fill]

/-- The markup of a select: the empty choice for a prompt and then all choices. -/
def selectMarkup (attrs : List Attr) (prompt : Option String) (choices : List SelectOption) :
    Html :=
  .element "select" attrs
    (lineFeed :: promptMarkup prompt ++ choices.flatMap fun c => [optionMarkup c, lineFeed])

theorem selectTemplate_fill (standard : d.theme = .standard) (table : List (Value × Value))
    (choices : List SelectOption) (prompt : Option String) :
    d.fill "controls/select.html" [
      ("attrs", .table table),
      ("options", .list (choices.map SelectOption.toValue)),
      ("prompt", .ofText? prompt)] =
      (spreadAttrs table).map fun attrs => [selectMarkup attrs prompt choices] := by
  unfold Drawing.fill
  rw [standard, Theme.standard_fill "controls/select.html" BuiltIn.select
    (by simp [Template.builtIn])]
  -- the loop and the prompt are filled apart, because the attributes may be a fault
  have listed := choices_drawn [("attrs", .value (.table table)),
    ("options", .value (.list (choices.map SelectOption.toValue))),
    ("prompt", .value (.ofText? prompt))] choices rfl
  have prompted := prompt_fill [("attrs", .value (.table table)),
    ("options", .value (.list (choices.map SelectOption.toValue))),
    ("prompt", .value (.ofText? prompt))] prompt rfl
  simp only [BuiltIn.select, List.map_cons, List.map_nil, Node.fillAll, Node.fill_element,
    fillAttrs, AttrSpec.fill, Expr.eval, BuiltIn.var, List.lookup_cons, beq_self_eq_true,
    Option.getD_some, ok_bind, Binding.value?]
  cases spreadAttrs table with
  | error e => rfl
  | ok attrs =>
    simp only [BuiltIn.var] at listed prompted
    simp [listed, prompted, Except.map]
    rfl

theorem promptMarkup_unnamed (prompt : Option String) : controlsAll (promptMarkup prompt) = [] := by
  unfold promptMarkup
  split
  · rfl
  · split <;> rfl

/-- A single select has the name of its control and all its choices, those that are selected being
marked. -/
theorem select_drawn (standard : d.theme = .standard) (unset : Leaves o "name")
    {choices : List SelectOption}
    (h : d.fill "controls/select.html" [
      ("attrs", .table (overlay [("id", .text desc.id), ("name", .text desc.name)]
        (o.htmlOptions ++ [controlClass]))),
      ("options", .list (choices.map SelectOption.toValue)),
      ("prompt", .ofText? o.prompt)] = .ok hs) :
    ∃ attrs, attr? "name" attrs = some desc.name ∧ hs = [selectMarkup attrs o.prompt choices] := by
  rw [selectTemplate_fill standard] at h
  obtain ⟨attrs, spread, rfl⟩ := exceptMap_eq_ok.mp h
  have found := named?_overlay [("id", .text desc.id), ("name", .text desc.name)]
    (unset.withClass (by decide))
  exact ⟨attrs, attr?_spread spread found rfl, rfl⟩

theorem select_control (standard : d.theme = .standard) (unset : Leaves o "name")
    {choices : List SelectOption} (h : d.select desc choices o = .ok hs) :
    ∃ attrs body, controlsAll hs = [Html.element "select" attrs body] ∧
      attr? "name" attrs = some desc.name := by
  obtain ⟨first, drawn, same⟩ := withErrors_controls standard h
  obtain ⟨attrs, named, rfl⟩ := select_drawn standard unset drawn
  have only : controlsAll [selectMarkup attrs o.prompt choices] =
      [selectMarkup attrs o.prompt choices] := by
    rw [controlsAll_cons, selectMarkup, controls_named named, controlsAll_append, controlsAll_cons,
      promptMarkup_unnamed, choices_unnamed]
    rfl
  exact ⟨attrs, _, same.trans only, named⟩

theorem select_names (standard : d.theme = .standard) (unset : Leaves o "name")
    {choices : List SelectOption} (h : d.select desc choices o = .ok hs) :
    ∀ x ∈ controlsAll hs, x.name? = some desc.name ∧ x.isInput = false := by
  obtain ⟨attrs, body, only, named⟩ := select_control standard unset h
  intro x hx
  rw [only] at hx
  obtain rfl := List.mem_singleton.mp hx
  exact ⟨named, rfl⟩

/-! ## Dates and times -/

theorem selectsAfter_name {setting : Temporal.Setting} {parts : List (Temporal.Unit × Value)}
    {units : List Temporal.Unit} {previous : Option Temporal.Unit} {selects : List Temporal.Select}
    (h : setting.selectsAfter parts previous units = .ok selects) :
    selects.map (·.name) = units.map fun unit => setting.name ++ "[" ++ unit.name ++ "]" := by
  induction units generalizing previous selects with
  | nil => cases h; rfl
  | cons unit rest ih =>
    obtain ⟨first, built, h⟩ := bind_eq_ok.mp h
    obtain ⟨others, builtRest, h⟩ := bind_eq_ok.mp h
    cases h
    obtain ⟨choices, -, built⟩ := bind_eq_ok.mp built
    obtain ⟨current, -, built⟩ := bind_eq_ok.mp built
    cases built
    rw [List.map_cons, List.map_cons, ih builtRest]

/-- What separates a select from the one before it. -/
def separatorMarkup : Option String → List Html
  | none => []
  | some s =>
    if s == "" then [] else [.element "span" [⟨.text "class", [.text s]⟩] [], lineFeed]

/-- A choice of a date or time select as one of any select. -/
def choiceOption (c : Temporal.Choice) : SelectOption := ⟨c.value, c.label, c.selected⟩

/-- One select of a date or time. -/
def unitMarkup (s : Temporal.Select) : Html :=
  .element "select" [⟨.text "class", [.text "form-control date-time"]⟩,
      ⟨.text "id", [.text s.id]⟩, ⟨.text "name", [.text s.name]⟩]
    (lineFeed :: (s.choices.map choiceOption).flatMap fun c => [optionMarkup c, lineFeed])

theorem separator_fill (scope : Scope) (s : Temporal.Select)
    (found : scope.lookup "control" = some (.value (selectValue s))) :
    Node.fill scope true (.choose (.holds (.member (BuiltIn.var "control") "separator")) [
      .element "span" [BuiltIn.filled "class" (.member (BuiltIn.var "control") "separator")] [],
      BuiltIn.lf] []) = .ok (separatorMarkup s.separator) := by
  have evaluated : (Expr.member (BuiltIn.var "control") "separator").eval scope =
      .ok (.value (.ofText? s.separator)) := by
    simp [BuiltIn.var, Expr.eval, found, Binding.value?, selectValue, Value.field?,
      Value.attributes, List.lookup_cons]
  cases given : s.separator with
  | none =>
    rw [given] at evaluated
    simp [Node.fill, Node.fillAll, Condition.eval, evaluated, Binding.isTrue, Binding.value?,
      Value.ofText?, Value.isTrue, separatorMarkup]
  | some text =>
    rw [given] at evaluated
    by_cases empty : text = ""
    · subst empty
      simp [Node.fill, Node.fillAll, Condition.eval, evaluated, Binding.isTrue, Binding.value?,
        Value.ofText?, Value.isTrue, separatorMarkup]
    · have holds : (Value.text text).isTrue = true := by simpa [Value.isTrue] using empty
      simp [Node.fill, Node.fillAll, Condition.eval, evaluated, Binding.isTrue, Binding.value?,
        Value.ofText?, holds, fillAttrs, AttrSpec.fill, fillParts, Part.fill, BuiltIn.filled,
        Binding.pieces, BuiltIn.lf, separatorMarkup, empty, lineFeed]

/-- The template of one select, repeated for all of them. -/
def unitTemplate : List Template.Node := [
  .choose (.holds (.member (BuiltIn.var "control") "separator")) [
    .element "span" [BuiltIn.filled "class" (.member (BuiltIn.var "control") "separator")] [],
    BuiltIn.lf] [],
  .element "select" [BuiltIn.fixed "class" "form-control date-time",
      BuiltIn.filled "id" (.member (BuiltIn.var "control") "id"),
      BuiltIn.filled "name" (.member (BuiltIn.var "control") "name")] [
    BuiltIn.lf,
    BuiltIn.choices (.member (BuiltIn.var "control") "options")],
  BuiltIn.lf]

theorem unit_fill (scope : Scope) (s : Temporal.Select) :
    Node.fillAll (("control", .value (selectValue s)) :: scope) true unitTemplate =
      .ok (separatorMarkup s.separator ++ [unitMarkup s, lineFeed]) := by
  have separated := separator_fill (("control", .value (selectValue s)) :: scope) s rfl
  have listed : Node.fill (("control", .value (selectValue s)) :: scope) true
      (BuiltIn.choices (.member (BuiltIn.var "control") "options")) =
      .ok (s.choices.flatMap fun c => [optionMarkup (choiceOption c), lineFeed]) :=
    choices_fill _ choiceOption s.choices rfl (fun _ => rfl) (fun _ => rfl) fun _ => rfl
  have attrs : fillAttrs (("control", .value (selectValue s)) :: scope) true
      [BuiltIn.fixed "class" "form-control date-time",
        BuiltIn.filled "id" (.member (BuiltIn.var "control") "id"),
        BuiltIn.filled "name" (.member (BuiltIn.var "control") "name")] =
      .ok [⟨.text "class", [.text "form-control date-time"]⟩, ⟨.text "id", [.text s.id]⟩,
        ⟨.text "name", [.text s.name]⟩] := rfl
  have body : Node.fillAll (("control", .value (selectValue s)) :: scope) true
      [BuiltIn.lf, BuiltIn.choices (.member (BuiltIn.var "control") "options")] =
      .ok (lineFeed ::
        (s.choices.map choiceOption).flatMap fun c => [optionMarkup c, lineFeed]) := by
    rw [Node.fillAll, Node.fillAll, listed, Node.fillAll, List.flatMap_map]
    simp [BuiltIn.lf, Node.fill, lineFeed]
  rw [unitTemplate, Node.fillAll, separated, Node.fillAll, Node.fill_element, attrs, ok_bind, body]
  rfl

theorem temporalTemplate_fill (standard : d.theme = .standard) (selects : List Temporal.Select) :
    d.fill "controls/datetime.html" [("controls", .list (selects.map selectValue))] =
      .ok (selects.flatMap fun s => separatorMarkup s.separator ++ [unitMarkup s, lineFeed]) := by
  unfold Drawing.fill
  rw [standard, Theme.standard_fill "controls/datetime.html" BuiltIn.datetime
    (by simp [Template.builtIn])]
  have repeated : ∀ scope : Scope,
      scope.lookup "controls" = some (.value (.list (selects.map selectValue))) →
      Node.fill scope true (.each "control" (BuiltIn.var "controls") unitTemplate) =
        .ok (selects.flatMap fun s => separatorMarkup s.separator ++ [unitMarkup s, lineFeed]) := by
    intro scope found
    exact each_fill _ selects (by simp [BuiltIn.var, Expr.eval, found]) (unit_fill scope)
  show Node.fillAll _ true [.each "control" (BuiltIn.var "controls") unitTemplate] = _
  rw [Node.fillAll, repeated _ rfl, ok_bind, Node.fillAll, ok_bind, pure_eq, List.append_nil]

theorem unitMarkup_controls (s : Temporal.Select) :
    (unitMarkup s).controls = [unitMarkup s] := by
  rw [unitMarkup, controls_named (show attr? "name" _ = some s.name from rfl), controlsAll_cons,
    choices_unnamed]
  rfl

theorem separatorMarkup_unnamed (separator : Option String) :
    controlsAll (separatorMarkup separator) = [] := by
  unfold separatorMarkup
  split
  · rfl
  · split <;> rfl

theorem units_controls (selects : List Temporal.Select) :
    controlsAll (selects.flatMap fun s => separatorMarkup s.separator ++ [unitMarkup s, lineFeed]) =
      selects.map unitMarkup := by
  have own : ∀ s : Temporal.Select,
      controlsAll (separatorMarkup s.separator ++ [unitMarkup s, lineFeed]) = [unitMarkup s] := by
    intro s
    rw [controlsAll_append, separatorMarkup_unnamed]
    simp [unitMarkup_controls, lineFeed]
  rw [controlsAll_flatMap, List.map_eq_flatMap]
  simp only [own]

/-- The selects of a date or time have the name of their control with their units, in order. -/
theorem temporal_drawn (standard : d.theme = .standard) {kind : Temporal.Kind} {today : Date}
    (h : d.temporal kind desc o today = .ok hs) :
    ∃ selects : List Temporal.Select, controlsAll hs = selects.map unitMarkup ∧
      selects.map (·.name) = (kind.units (o.options.map fun e => (.text e.1, e.2))).map fun unit =>
        desc.name ++ "[" ++ unit.name ++ "]" := by
  obtain ⟨selects, built, h⟩ := bind_eq_ok.mp h
  obtain ⟨parts, -, built⟩ := bind_eq_ok.mp built
  rw [temporalTemplate_fill standard] at h
  cases h
  exact ⟨selects, units_controls selects, selectsAfter_name built⟩

theorem temporal_names (standard : d.theme = .standard) {kind : Temporal.Kind} {today : Date}
    (h : d.temporal kind desc o today = .ok hs) :
    ∀ x ∈ controlsAll hs, x.isInput = false ∧
      ∃ unit, x.name? = some (desc.name ++ "[" ++ unit ++ "]") := by
  obtain ⟨selects, controls, names⟩ := temporal_drawn standard h
  intro x hx
  rw [controls] at hx
  obtain ⟨s, mem, rfl⟩ := List.mem_map.mp hx
  have named : s.name ∈ selects.map (·.name) := List.mem_map_of_mem mem
  rw [names] at named
  obtain ⟨unit, -, same⟩ := List.mem_map.mp named
  exact ⟨rfl, unit.name, congrArg some same.symm⟩

/-! ## Scalar controls -/

/-- The controls of a scalar field have its name, with a unit if they are parts of a date or
time. -/
theorem bare_names (standard : d.theme = .standard) (unset : Leaves o "name")
    {kind : ControlKind} {today : Date} (h : d.bare kind desc o today = .ok hs) :
    ∀ x ∈ controlsAll hs, x.name? = some desc.name ∨
      x.isInput = false ∧ ∃ unit, x.name? = some (desc.name ++ "[" ++ unit ++ "]") := by
  have input : d.input desc o = .ok hs → ∀ x ∈ controlsAll hs, x.name? = some desc.name := by
    intro h
    obtain ⟨attrs, named, rfl, -⟩ := input_drawn standard unset h
    exact void_names named
  intro x hx
  cases kind with
  | boolean => exact Or.inl (checkbox_names standard unset h x hx)
  | textarea =>
    obtain ⟨attrs, named, rfl⟩ := textarea_drawn standard unset h
    have noInner :
        controlsAll ((displayText desc.value).toList.map fun s => .piece (.text s)) = [] := by
      cases displayText desc.value <;> rfl
    rw [controlsAll_cons, controls_named named, noInner, controlsAll_nil, List.append_nil,
      List.mem_singleton] at hx
    subst hx
    exact Or.inl named
  | date => exact Or.inr (temporal_names standard h x hx)
  | time => exact Or.inr (temporal_names standard h x hx)
  | datetime => exact Or.inr (temporal_names standard h x hx)
  | file =>
    obtain ⟨attrs, named, rfl⟩ := file_drawn standard unset h
    exact Or.inl (void_names named x hx)
  | select => exact Or.inl (input h x hx)
  | collection => exact Or.inl (input h x hx)
  | text => exact Or.inl (input h x hx)

/-! ## Choices of any number of members -/

theorem baseName_list (base : String) : baseName (base ++ "[]") = base := by
  have marked : (base ++ "[]").toList = base.toList ++ ['[', ']'] := by simp
  have ends : Text.endsWith (base ++ "[]").toList ['[', ']'] = true := by
    rw [Text.endsWith, List.isSuffixOf_iff_suffix, marked]
    exact List.suffix_append _ _
  have dropped : Text.dropEnd 2 (base ++ "[]").toList = base.toList := by
    simp [Text.dropEnd]
  rw [baseName, if_pos ends, dropped, String.ofList_toList]

/-- The name that a member is submitted under. -/
def memberName (desc : Descriptor) (style : CollectionStyle) (value : String) : String :=
  if style == .checkBoxes then baseName desc.name ++ "[" ++ value ++ "]" else desc.name

/-- A member as a choice. It is selected if its value is one of those that are. -/
def memberChoice (selected : List String) (t : String × String) : SelectOption :=
  ⟨t.1, t.2, selected.contains t.1⟩

/-- The box or button of a member. -/
def boxInput (type id name : String) (c : SelectOption) : Html :=
  .void "input" (⟨.text "type", [.text type]⟩ :: ⟨.text "id", [.text id]⟩ ::
    ⟨.text "name", [.text name]⟩ :: ⟨.text "value", [.text c.value]⟩ ::
    if c.selected then [⟨.text "checked", [.text "checked"]⟩] else [])

/-- A box or button in its label. -/
def boxMarkup (label type id name : String) (c : SelectOption) : Html :=
  .element "label" [⟨.text "class", [.text label]⟩, ⟨.text "for", [.text id]⟩]
    [boxInput type id name c, .piece (.text " "), .piece (.text c.label)]

section Members

variable (desc : Descriptor) (style : CollectionStyle) (selected : List String)

/-- Boxes or buttons for members. -/
def boxesMarkup (group label type : String) (texts : List (String × String)) : List Html := [
  .element "div" [⟨.text "class", [.text group]⟩] (lineFeed :: texts.flatMap fun t => [
    boxMarkup label type (desc.id ++ "_" ++ t.1) (memberName desc style t.1)
      (memberChoice selected t), lineFeed]),
  lineFeed]

/-- A select of several members. -/
def listMarkup (texts : List (String × String)) : Html :=
  .element "select" [⟨.text "id", [.text desc.id]⟩, ⟨.text "class", [.text "form-control"]⟩,
      ⟨.text "multiple", [.text "multiple"]⟩, ⟨.text "name", [.text desc.name]⟩]
    (lineFeed :: texts.flatMap fun t => [optionMarkup (memberChoice selected t), lineFeed])

/-- Members as they are presented. -/
def membersMarkup (texts : List (String × String)) : List Html :=
  match style with
  | .checkBoxes => boxesMarkup desc style selected "check-boxes" "checkbox" "checkbox" texts
  | .radio => boxesMarkup desc style selected "radio-buttons" "radio" "radio" texts
  | .select => [listMarkup desc selected texts, lineFeed]

/-- The input that is submitted whether anything is chosen or not. -/
def emptyInput (name : String) : Html :=
  .void "input" [⟨.text "name", [.text name]⟩, ⟨.text "type", [.text "hidden"]⟩,
    ⟨.text "value", [.text ""]⟩]

/-- A choice of any number of members. -/
def manyMarkup (texts : List (String × String)) : List Html :=
  emptyInput desc.name :: lineFeed :: membersMarkup desc style selected texts

variable {desc style selected}

theorem box_fill (scope : Scope) (label type : String) (t : String × String) :
    Node.fillAll (("option", .value (memberValue desc style selected t.1 t.2)) :: scope) true [
      .element "label" [BuiltIn.fixed "class" label,
          BuiltIn.filled "for" (.member (BuiltIn.var "option") "id")] [
        .void "input" [BuiltIn.fixed "type" type,
          BuiltIn.filled "id" (.member (BuiltIn.var "option") "id"),
          BuiltIn.filled "name" (.member (BuiltIn.var "option") "name"),
          BuiltIn.filled "value" (.member (BuiltIn.var "option") "value"),
          .when (.holds (.member (BuiltIn.var "option") "selected")) "checked" [.text "checked"]],
        .text " ",
        .slot (.member (BuiltIn.var "option") "label")],
      BuiltIn.lf] =
    .ok [boxMarkup label type (desc.id ++ "_" ++ t.1) (memberName desc style t.1)
      (memberChoice selected t), lineFeed] := by
  obtain ⟨value, label⟩ := t
  unfold memberValue memberChoice
  cases selected.contains value <;> rfl

theorem boxes_fill {scope : Scope} (group label type : String) (texts : List (String × String))
    (listed : scope.lookup "options" = some (.value (.list (texts.map fun t =>
      memberValue desc style selected t.1 t.2)))) :
    Node.fillAll scope true (BuiltIn.boxes group label type) =
      .ok (boxesMarkup desc style selected group label type texts) := by
  have evaluated : (BuiltIn.var "options").eval scope = .ok (.value (.list (texts.map fun t =>
      memberValue desc style selected t.1 t.2))) := by
    simp [BuiltIn.var, Expr.eval, listed]
  have all := each_fill _ texts evaluated (box_fill scope label type)
  rw [BuiltIn.boxes, Node.fillAll, Node.fill_element, Node.fillAll, Node.fillAll, all,
    Node.fillAll, ok_bind, ok_bind, pure_eq, List.append_nil]
  rfl

/-- The part of the template that presents members. -/
def membersTemplate : Template.Node :=
  .choose (.equals (BuiltIn.var "style") "check_boxes")
    (BuiltIn.boxes "check-boxes" "checkbox" "checkbox") [
    .choose (.equals (BuiltIn.var "style") "radio")
      (BuiltIn.boxes "radio-buttons" "radio" "radio") [
      .element "select" [BuiltIn.filled "id" (BuiltIn.var "id"),
          BuiltIn.fixed "class" "form-control", BuiltIn.fixed "multiple" "multiple",
          BuiltIn.filled "name" (BuiltIn.var "name")] [
        BuiltIn.lf, BuiltIn.choices (BuiltIn.var "options")],
      BuiltIn.lf]]

/-- What the template is filled in with. -/
def manyScope (desc : Descriptor) (style : CollectionStyle) (selected : List String)
    (texts : List (String × String)) : Scope := [
  ("id", .value (.text desc.id)),
  ("name", .value (.text desc.name)),
  ("style", .value (.text style.name)),
  ("options", .value (.list (texts.map fun t => memberValue desc style selected t.1 t.2)))]

/-- Members are presented in their style. -/
theorem members_fill (texts : List (String × String)) :
    Node.fill (manyScope desc style selected texts) true membersTemplate =
      .ok (membersMarkup desc style selected texts) := by
  have styled : ∀ name : String, (Condition.equals (BuiltIn.var "style") name).eval
      (manyScope desc style selected texts) = .ok (style.name == name) := fun _ => rfl
  cases style with
  | checkBoxes =>
    rw [membersTemplate, Node.fill, styled]
    exact boxes_fill _ _ _ texts rfl
  | radio =>
    rw [membersTemplate, Node.fill, styled, ok_bind, if_neg (by decide), fillAll_one, Node.fill,
      styled]
    exact boxes_fill _ _ _ texts rfl
  | select =>
    have listBox : Node.fill (manyScope desc .select selected texts) true
        (BuiltIn.choices (BuiltIn.var "options")) =
        .ok (texts.flatMap fun t => [optionMarkup (memberChoice selected t), lineFeed]) :=
      choices_fill _ (memberChoice selected) texts rfl (fun _ => rfl) (fun _ => rfl) fun _ => rfl
    rw [membersTemplate, Node.fill, styled, ok_bind, if_neg (by decide), fillAll_one, Node.fill,
      styled, ok_bind, if_neg (by decide), Node.fillAll, Node.fill_element, Node.fillAll,
      Node.fillAll, listBox, Node.fillAll, ok_bind, ok_bind, pure_eq, List.append_nil]
    rfl

/-- A choice of any number of members is drawn in its style. -/
theorem manyTemplate_fill (standard : d.theme = .standard) (texts : List (String × String)) :
    d.fill "controls/collection.html" [
      ("id", .text desc.id),
      ("name", .text desc.name),
      ("style", .text style.name),
      ("options", .list (texts.map fun t => memberValue desc style selected t.1 t.2))] =
    .ok (manyMarkup desc style selected texts) := by
  have members : Node.fill (manyScope desc style selected texts) true membersTemplate =
      .ok (membersMarkup desc style selected texts) := members_fill texts
  rw [membersTemplate] at members
  unfold Drawing.fill
  rw [standard, Theme.standard_fill "controls/collection.html" BuiltIn.collection
    (by simp [Template.builtIn])]
  change Node.fillAll (manyScope desc style selected texts) true BuiltIn.collection = _
  rw [BuiltIn.collection, Node.fillAll, Node.fillAll, fillAll_one, members]
  rfl

theorem boxes_controls (group label type : String) (texts : List (String × String)) :
    controlsAll (boxesMarkup desc style selected group label type texts) = texts.map fun t =>
      boxInput type (desc.id ++ "_" ++ t.1) (memberName desc style t.1)
        (memberChoice selected t) := by
  have own : ∀ t : String × String, controlsAll [
      boxMarkup label type (desc.id ++ "_" ++ t.1) (memberName desc style t.1)
        (memberChoice selected t), lineFeed] =
      [boxInput type (desc.id ++ "_" ++ t.1) (memberName desc style t.1)
        (memberChoice selected t)] := by
    intro t
    simp [boxMarkup, boxInput, controls, lineFeed]
  rw [boxesMarkup, controlsAll_cons, controls_element rfl, controlsAll_cons, controlsAll_flatMap,
    List.map_eq_flatMap]
  simp only [own]
  simp [lineFeed]

/-- A select of several members is a control itself, and its options are none. -/
theorem listMarkup_controls (texts : List (String × String)) :
    controlsAll [listMarkup desc selected texts, lineFeed] = [listMarkup desc selected texts] := by
  have unnamed := choices_unnamed (texts.map (memberChoice selected))
  rw [List.flatMap_map] at unnamed
  have named : attr? "name" (listMarkup desc selected texts).attrs = some desc.name := rfl
  have own : (listMarkup desc selected texts).controls = [listMarkup desc selected texts] := by
    refine (controls_named named).trans ?_
    rw [controlsAll_cons, unnamed]
    rfl
  rw [controlsAll_cons, own]
  rfl

/-- The controls of a choice of any number of members have its name, or the names of members. -/
theorem manyMarkup_names (texts : List (String × String)) :
    ∀ x ∈ controlsAll (manyMarkup desc style selected texts), x.name? = some desc.name ∨
      ∃ value, x.name? = some (memberName desc style value) := by
  have boxes : ∀ group label type,
      ∀ x ∈ controlsAll (boxesMarkup desc style selected group label type texts),
        ∃ value, x.name? = some (memberName desc style value) := by
    intro group label type x hx
    rw [boxes_controls] at hx
    obtain ⟨t, -, rfl⟩ := List.mem_map.mp hx
    exact ⟨t.1, rfl⟩
  have members : ∀ x ∈ controlsAll (membersMarkup desc style selected texts),
      x.name? = some desc.name ∨ ∃ value, x.name? = some (memberName desc style value) := by
    cases style with
    | checkBoxes => exact fun x hx => Or.inr (boxes _ _ _ x hx)
    | radio => exact fun x hx => Or.inr (boxes _ _ _ x hx)
    | select =>
      intro x hx
      rw [membersMarkup, listMarkup_controls, List.mem_singleton] at hx
      rw [hx]
      exact Or.inl rfl
  intro x hx
  rcases List.mem_cons.mp hx with rfl | hx
  · exact Or.inl rfl
  · exact members x hx

end Members

theorem memberName_listed {base : String} (listed : desc.name = base ++ "[]")
    (style : CollectionStyle) (value : String) :
    ∃ rest, memberName desc style value = base ++ "[" ++ rest := by
  unfold memberName
  split
  · exact ⟨value ++ "]", by rw [listed, baseName_list, String.append_assoc]⟩
  · exact ⟨"]", by rw [listed, String.append_assoc]; rfl⟩

/-- A choice of any number of members is made of their texts alone. -/
theorem many_eq (standard : d.theme = .standard) (items : List Value) (identity : Value → Value)
    (selected : List Value) :
    d.many desc items o identity selected =
      items.mapM (memberText (isLiteralCollection items) o identity) >>= fun texts =>
        d.withErrors desc (.ok (manyMarkup desc (o.style.getD .select)
          (selected.map Value.toText) texts)) := by
  unfold Drawing.many
  dsimp only
  simp only [manyTemplate_fill standard]

/-- The members are named alike, or each for its value. -/
theorem many_names (standard : d.theme = .standard) {base : String}
    (listed : desc.name = base ++ "[]") {items : List Value} {identity : Value → Value}
    {selected : List Value} (h : d.many desc items o identity selected = .ok hs) :
    ∀ x ∈ controlsAll hs, ∃ rest, x.name? = some (base ++ "[" ++ rest) := by
  rw [many_eq standard] at h
  obtain ⟨texts, -, h⟩ := bind_eq_ok.mp h
  obtain ⟨first, drawn, same⟩ := withErrors_controls standard h
  cases drawn
  intro x hx
  rw [same] at hx
  rcases manyMarkup_names texts x hx with named | ⟨value, named⟩
  · exact ⟨"]", by rw [named, listed, String.append_assoc]; rfl⟩
  · obtain ⟨rest, eq⟩ := memberName_listed listed (o.style.getD .select) value
    exact ⟨rest, by rw [named, eq]⟩

end Formwright.Drawing
