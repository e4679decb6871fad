import Formwright.Proofs.Render.Names
import Formwright.Proofs.Render.Places

/-!
# Controls that show a text

A text control or a single select is drawn once for the value of its record and once for a text that
was submitted. Both markups are one control followed by the same errors, so they differ in this
control alone; and the second one shows the text.

- `Html.Shows`: what it means for a control to show a text.
- `Redrawn`: the same markup but for one control, which now shows a text.
- `input_redrawn`: an input drawn with and without a submitted text.
-/

namespace Formwright

open Html Outcome Template

namespace Html

/-- The element is an `option`. -/
def isOption : Html → Bool
  | .element tag _ _ => tag == "option"
  | _ => false

/-- The control shows the text: an input has it as its value, a text area holds it, and of the
options of a select exactly those of this value are selected. -/
def Shows (x : String) : Html → Prop
  | .piece _ => False
  | .void tag attrs => tag = "input" ∧ attr? "value" attrs = some x
  | .element tag _ body =>
    tag = "textarea" ∧ body = [.piece (.text x)] ∨
    tag = "select" ∧ ∀ option ∈ body, option.isOption = true →
      ((attr? "selected" option.attrs).isSome = true ↔ attr? "value" option.attrs = some x)

end Html

/-- The markups differ in one control of this name at most, and the second one is a control that
shows the text. -/
structure Redrawn (name x : String) (hs hs' : List Html) : Prop where
  blank : blankAll name hs = blankAll name hs'
  shown : ∃ control, controlsAll hs' = [control] ∧ control.name? = some name ∧ control.Shows x

/-- What is put around both markups changes nothing. -/
theorem Redrawn.around {name x : String} {hs hs' : List Html} {around : List Html → List Html}
    (h : Redrawn name x hs hs') (isAround : Around around []) :
    Redrawn name x (around hs) (around hs') where
  blank := isAround.blank h.blank
  shown := by
    obtain ⟨control, only, named, shows⟩ := h.shown
    refine ⟨control, ?_, named, shows⟩
    rw [isAround.controls, only]
    rfl

/-! ## Attributes that can be written -/

theorem spreadAttrs_total {entries : List (Value × Value)}
    (clean : ∀ e ∈ entries, ∃ name : String, e.1 = .text name ∧
      name.toList.any isNameBreak = false) :
    ∃ attrs, spreadAttrs entries = .ok attrs := by
  induction entries with
  | nil => exact ⟨[], rfl⟩
  | cons e rest ih =>
    obtain ⟨key, v⟩ := e
    obtain ⟨name, rfl, free⟩ := clean _ List.mem_cons_self
    obtain ⟨others, spread⟩ := ih fun e mem => clean e (List.mem_cons_of_mem _ mem)
    unfold spreadAttrs
    cases v.isNone with
    | true => exact ⟨others, spread⟩
    | false =>
      refine ⟨⟨.text name, [v.piece]⟩ :: others, ?_⟩
      simp [Value.string?, free, spread]

/-- Attributes are written if their names can be. -/
theorem overlay_total (attrs more : List (String × Value))
    (clean : ∀ a ∈ attrs ++ more, a.1.toList.any isNameBreak = false) :
    ∃ written, spreadAttrs (overlay attrs more) = .ok written := by
  refine spreadAttrs_total fun e mem => ?_
  obtain ⟨e', mem', same⟩ := Value.key_of_mem_tableOf mem
  obtain ⟨a, a_mem, rfl⟩ := List.mem_map.mp mem'
  exact ⟨a.1, same.symm, clean a a_mem⟩

/-- The names of all further attributes can be written. -/
def FieldOptions.isWritable (o : FieldOptions) : Bool :=
  o.htmlOptions.all fun a => !a.1.toList.any isNameBreak

theorem FieldOptions.isWritable_of_plain {o : FieldOptions} (plain : o.htmlOptions = []) :
    o.isWritable = true := by
  rw [isWritable, plain]
  rfl

theorem FieldOptions.clean {o : FieldOptions} (writable : o.isWritable = true)
    {attrs : List (String × Value)} (own : ∀ a ∈ attrs, a.1.toList.any isNameBreak = false) :
    ∀ a ∈ attrs ++ o.htmlOptions, a.1.toList.any isNameBreak = false := by
  intro a mem
  rcases List.mem_append.mp mem with mem | mem
  · exact own a mem
  · rw [isWritable, List.all_eq_true] at writable
    simpa using writable a mem

/-- The class of most controls can be written as well. -/
theorem FieldOptions.clean_withClass {o : FieldOptions} (writable : o.isWritable = true)
    {attrs : List (String × Value)} (own : ∀ a ∈ attrs, a.1.toList.any isNameBreak = false) :
    ∀ a ∈ attrs ++ (o.htmlOptions ++ [controlClass]), a.1.toList.any isNameBreak = false := by
  intro a mem
  rw [← List.append_assoc] at mem
  rcases List.mem_append.mp mem with mem | mem
  · exact clean writable own a mem
  · rw [List.mem_singleton.mp mem]
    decide

/-- The descriptor of a field with a submitted text. -/
def Descriptor.showing (desc : Descriptor) (x : String) : Descriptor :=
  { desc with value := .text x }

namespace Drawing

variable {d : Drawing} {desc : Descriptor} {o : FieldOptions} {x : String}

theorem leaves_of_plain (plain : o.htmlOptions = []) (name : String) : Leaves o name := by
  intro a mem
  rw [plain] at mem
  cases mem

/-- The errors after a control are the same, and they have no names. -/
theorem withErrors_redrawn (standard : d.theme = .standard) {name : String}
    {body body' : Except Fault (List Html)} (h : Alike (Redrawn name x) body body') :
    Alike (Redrawn name x) (d.withErrors desc body) (d.withErrors (desc.showing x) body') := by
  refine h.bind fun hs hs' _ _ redrawn => ?_
  refine .bind_same fun sentences drawn => ?_
  -- the errors are not looked at: they depend on the descriptor but for its value
  obtain ⟨control, only, named, shows⟩ := redrawn.shown
  refine .ok ⟨?_, control, ?_, named, shows⟩
  · rw [blankAll_append, blankAll_append, redrawn.blank]
  · rw [controlsAll_append, only, errors_controls standard drawn]
    rfl

/-! ## Text controls -/

theorem textarea_total (standard : d.theme = .standard) (writable : o.isWritable = true)
    (desc : Descriptor) : ∃ hs, d.textarea desc o = .ok hs := by
  obtain ⟨attrs, spread⟩ := overlay_total [("id", .text desc.id), ("name", .text desc.name),
    ("placeholder", .ofText? o.prompt)] (o.htmlOptions ++ [controlClass])
    (FieldOptions.clean_withClass writable (by simp [isNameBreak]))
  unfold Drawing.textarea
  rw [textareaTemplate_fill standard, spread]
  exact ⟨_, rfl⟩

/-- A text area that is drawn again with a submitted text. -/
theorem textarea_redrawn (standard : d.theme = .standard) (plain : o.htmlOptions = []) :
    Alike (Redrawn desc.name x) (d.textarea desc o) (d.textarea (desc.showing x) o) := by
  have writable := FieldOptions.isWritable_of_plain plain
  obtain ⟨hs, drawn⟩ := textarea_total standard writable desc
  obtain ⟨hs', drawn'⟩ := textarea_total standard writable (desc.showing x)
  rw [drawn, drawn']
  obtain ⟨attrs, named, rfl⟩ := textarea_drawn standard (leaves_of_plain plain _) drawn
  obtain ⟨attrs', named', rfl⟩ := textarea_drawn standard (leaves_of_plain plain _) drawn'
  have named' : attr? "name" attrs' = some desc.name := named'
  refine .ok ⟨?_, .element "textarea" attrs' [.piece (.text x)], ?_, named', Or.inl ⟨rfl, rfl⟩⟩
  · simp [blank, named, named']
  · rw [controlsAll_cons, controls_named named']
    rfl

/-- A single-line input can be drawn if the length of its text can be. -/
theorem input_total (standard : d.theme = .standard) (writable : o.isWritable = true)
    {maxlength : String} (written : writtenNumeral d.config.textMaxlength = .ok maxlength)
    (desc : Descriptor) : ∃ hs, d.input desc o = .ok hs := by
  obtain ⟨attrs, spread⟩ := overlay_total [("type", .text (inputType o)), ("id", .text desc.id),
    ("name", .text desc.name), ("value", .ofText? (displayText desc.value)),
    ("maxlength", .text maxlength), ("placeholder", .ofText? o.prompt)]
    (o.htmlOptions ++ [controlClass])
    (FieldOptions.clean_withClass writable (by simp [isNameBreak]))
  unfold Drawing.input
  rw [written, ok_bind, inputTemplate_fill standard, spread]
  exact ⟨_, rfl⟩

/-- A single-line input that is drawn again with a submitted text. -/
theorem input_redrawn (standard : d.theme = .standard) (plain : o.htmlOptions = []) :
    Alike (Redrawn desc.name x) (d.input desc o) (d.input (desc.showing x) o) := by
  cases written : writtenNumeral d.config.textMaxlength with
  | error e =>
    unfold Drawing.input
    rw [written]
    exact .error e
  | ok maxlength =>
    have writable := FieldOptions.isWritable_of_plain plain
    obtain ⟨hs, drawn⟩ := input_total standard writable written desc
    obtain ⟨hs', drawn'⟩ := input_total standard writable written (desc.showing x)
    rw [drawn, drawn']
    obtain ⟨attrs, named, rfl, -⟩ := input_drawn standard (leaves_of_plain plain _) drawn
    obtain ⟨attrs', named', rfl, value⟩ := input_drawn standard (leaves_of_plain plain _) drawn'
    have named' : attr? "name" attrs' = some desc.name := named'
    refine .ok ⟨?_, .void "input" attrs', ?_, named', rfl,
      value (leaves_of_plain plain _) x rfl⟩
    · simp [blank, named, named']
    · rw [controlsAll_cons, controls_void named']
      rfl

/-! ## Single selects -/

/-- Of the options of a select those are selected that its choices say. -/
theorem selectMarkup_shows {attrs : List Attr} {prompt : Option String}
    {choices : List SelectOption} (given : x ≠ "")
    (chosen : ∀ choice ∈ choices, choice.selected = true ↔ choice.value = x) :
    (selectMarkup attrs prompt choices).Shows x := by
  refine Or.inr ⟨rfl, fun option mem isOption => ?_⟩
  rcases List.mem_append.mp mem with before | after
  · -- the empty choice for a prompt is not selected, and its value is no submitted text
    rcases List.mem_cons.mp before with rfl | prompted
    · cases isOption
    · unfold promptMarkup at prompted
      split at prompted
      · cases prompted
      · split at prompted
        · cases prompted
        · rcases List.mem_cons.mp prompted with rfl | last
          · simpa [Html.attrs] using given
          · rw [List.mem_singleton.mp last] at isOption
            cases isOption
  · obtain ⟨choice, choice_mem, mem⟩ := List.mem_flatMap.mp after
    rcases List.mem_cons.mp mem with rfl | last
    · have marked := chosen choice choice_mem
      cases selected : choice.selected with
      | true => simpa [optionMarkup, Html.attrs, selected] using marked.mp selected
      | false =>
        have other : choice.value ≠ x := fun eq => by simp [marked.mpr eq] at selected
        simpa [optionMarkup, Html.attrs, selected] using other
    · rw [List.mem_singleton.mp last] at isOption
      cases isOption

/-- A single select that is drawn again with a submitted text: its choices say which of them the
text is. -/
theorem select_redrawn (standard : d.theme = .standard) (plain : o.htmlOptions = [])
    (given : x ≠ "") (choices : List SelectOption) {choices' : List SelectOption}
    (chosen : ∀ choice ∈ choices', choice.selected = true ↔ choice.value = x) :
    Alike (Redrawn desc.name x) (d.select desc choices o)
      (d.select (desc.showing x) choices' o) := by
  obtain ⟨attrs, spread⟩ := overlay_total [("id", .text desc.id), ("name", .text desc.name)]
    (o.htmlOptions ++ [controlClass])
    (FieldOptions.clean_withClass (FieldOptions.isWritable_of_plain plain) (by simp [isNameBreak]))
  have named : attr? "name" attrs = some desc.name := by
    refine attr?_spread spread (v := .text desc.name) ?_ rfl
    rw [named?_overlay _ ((leaves_of_plain plain _).withClass (by decide))]
    rfl
  unfold Drawing.select
  refine withErrors_redrawn standard ?_
  have spread' : spreadAttrs (overlay [("id", .text (desc.showing x).id),
    ("name", .text (desc.showing x).name)] (o.htmlOptions ++ [controlClass])) = .ok attrs := spread
  rw [selectTemplate_fill standard, selectTemplate_fill standard, spread, spread']
  refine .ok ⟨?_, selectMarkup attrs o.prompt choices', ?_, named,
    selectMarkup_shows given chosen⟩
  · simp [blank, selectMarkup, named]
  · rw [controlsAll_cons, selectMarkup, controls_named named, controlsAll_append, controlsAll_cons,
      promptMarkup_unnamed, choices_unnamed]
    rfl

/-- A choice is selected if its value is the text that is shown. -/
theorem choiceFor_showing (desc : Descriptor) (value label : String) :
    (choiceFor (desc.showing x) value label).selected = true ↔
      (choiceFor (desc.showing x) value label).value = x := by
  simp only [choiceFor, Descriptor.showing, displayText, beq_iff_eq, Option.some.injEq]
  exact eq_comm

theorem literalSelect_redrawn (standard : d.theme = .standard) (plain : o.htmlOptions = [])
    (given : x ≠ "") (items : List Value) :
    Alike (Redrawn desc.name x) (d.literalSelect desc items o)
      (d.literalSelect (desc.showing x) items o) := by
  have chosen : Alike (fun _ choices' => ∀ choice ∈ choices',
      choice.selected = true ↔ choice.value = x) (literalChoices desc items)
      (literalChoices (desc.showing x) items) := by
    unfold literalChoices
    induction items with
    | nil =>
      refine .ok fun choice mem => ?_
      cases mem
    | cons item rest ih =>
      simp only [List.mapM_cons]
      refine Alike.bind (R := fun _ choice => choice.selected = true ↔ choice.value = x) ?_ ?_
      · refine .bind_same fun parts _ => ?_
        exact .ok (choiceFor_showing desc _ _)
      · intro choice choice' _ _ marked
        refine ih.bind fun others others' _ _ markedRest => .ok fun c mem => ?_
        rcases List.mem_cons.mp mem with rfl | mem
        · exact marked
        · exact markedRest c mem
  unfold Drawing.literalSelect
  exact chosen.bind fun choices choices' _ _ marked =>
    select_redrawn standard plain given choices marked

theorem recordSelect_redrawn (standard : d.theme = .standard) (plain : o.htmlOptions = [])
    (given : x ≠ "") (items : List Value) (identity : Value → Value) :
    Alike (Redrawn desc.name x) (d.recordSelect desc items o identity)
      (d.recordSelect (desc.showing x) items o identity) := by
  unfold Drawing.recordSelect
  refine select_redrawn standard plain given _ fun choice mem => ?_
  obtain ⟨item, -, rfl⟩ := List.mem_map.mp mem
  exact choiceFor_showing desc _ _

/-- A scalar text control that is drawn again with a submitted text. -/
theorem scalar_redrawn (standard : d.theme = .standard) (plain : o.htmlOptions = [])
    {kind : ControlKind} (textual : kind = .text ∨ kind = .textarea) (today : Date) :
    Alike (Redrawn desc.name x) (d.scalar kind desc o today)
      (d.scalar kind (desc.showing x) o today) := by
  unfold Drawing.scalar
  refine withErrors_redrawn standard ?_
  rcases textual with rfl | rfl
  · exact input_redrawn standard plain
  · exact textarea_redrawn standard plain

end Drawing

namespace Render.Renderer

variable {r : Renderer} {c c' : Context} {f f' : Frame} {field : String} {o : FieldOptions}
  {x : String}

/-- The input is drawn as a text control or as a single select. -/
def isTextual (r : Renderer) (model field : String) (o : FieldOptions) : Bool :=
  if o.collection.isSome then !isMany (r.assoc? model field)
  else
    match r.schema.fieldType model field with
    | .error _ => false
    | .ok type =>
      match ControlKind.resolve (.ofDeclared type) o false with
      | .text | .textarea => true
      | _ => false

/-- The first control is drawn again with a submitted text. -/
structure ShownAgain (name x : String) (shown shown' : Shown) : Prop where
  descriptor : shown'.descriptor = shown.descriptor.showing x
  html : Redrawn name x shown.html shown'.html

theorem describe_showing (request : SameRequest c c') (place : SamePlace f f')
    (displayed : o.display = true) {key : String} (submitted : f'.value key = .text x) :
    Alike (fun desc desc' => desc.name = f.scope.elementName key ∧ desc' = desc.showing x)
      (r.describe c f field key o) (r.describe c' f' field key o) := by
  unfold describe
  have errors : r.errorsOf c' f' field = r.errorsOf c f field := by
    simp only [errorsOf, request.errors, place.model, place.bindErrors]
  rw [errors]
  refine .bind_same fun known _ => ?_
  refine .ok ⟨rfl, ?_⟩
  simp only [Descriptor.showing, isVisible, displayed, Bool.true_or, request.required, place.scope,
    submitted]

theorem single_showing (standard : r.drawing.theme = .standard) (request : SameRequest c c')
    (place : SamePlace f f') (displayed : o.display = true) (plain : o.htmlOptions = [])
    (items : List Value) {key : String} (submitted : f'.value key = .text x) (given : x ≠ "") :
    Alike (ShownAgain (f.scope.elementName key) x) (r.singleControl c f field o items key)
      (r.singleControl c' f' field o items key) := by
  unfold singleControl
  refine (describe_showing request place displayed submitted).bind fun desc desc' _ _ again => ?_
  obtain ⟨named, rfl⟩ := again
  rw [← named]
  split
  · refine (Drawing.literalSelect_redrawn standard plain given items).bind ?_
    exact fun hs hs' _ _ redrawn => .ok ⟨rfl, redrawn⟩
  · refine (Drawing.recordSelect_redrawn standard plain given items r.schema.identity).bind ?_
    exact fun hs hs' _ _ redrawn => .ok ⟨rfl, redrawn⟩

theorem scalar_showing (standard : r.drawing.theme = .standard) (request : SameRequest c c')
    (place : SamePlace f f') (displayed : o.display = true) (plain : o.htmlOptions = [])
    {kind : ControlKind} (textual : kind = .text ∨ kind = .textarea)
    (submitted : f'.value field = .text x) :
    Alike (ShownAgain (f.scope.elementName field) x) (r.scalarControl c f field o kind)
      (r.scalarControl c' f' field o kind) := by
  unfold scalarControl
  refine (describe_showing request place displayed submitted).bind fun desc desc' _ _ again => ?_
  obtain ⟨named, rfl⟩ := again
  rw [← named, ← request.today]
  refine (Drawing.scalar_redrawn standard plain textual c.today).bind ?_
  exact fun hs hs' _ _ redrawn => .ok ⟨rfl, redrawn⟩

/-- A text control or single select drawn for a submitted text. -/
theorem control_showing (standard : r.drawing.theme = .standard) (request : SameRequest c c')
    (place : SamePlace f f') (displayed : o.display = true) (plain : o.htmlOptions = [])
    (constant : r.IsConstant o.collection)
    (textual : r.isTextual f.model field o = true)
    (submitted : f'.value (r.inputKey f.model field o) = .text x) (given : x ≠ "") {type : String}
    (declared : r.schema.fieldType f.model field = .ok type) :
    Alike (fun a b => ShownAgain (f.scope.elementName (r.inputKey f.model field o)) x a.1 b.1 ∧
        a.2.1 = b.2.1)
      (r.control c f field o (.ofDeclared type)) (r.control c' f' field o (.ofDeclared type)) := by
  unfold isTextual at textual
  unfold control
  by_cases chosen : o.collection.isSome = true
  · rw [if_pos chosen, Bool.not_eq_true'] at textual
    have key : r.inputKey f.model field o = Schema.keyOf (r.assoc? f.model field) field := by
      rw [inputKey, if_pos chosen, textual]
      rfl
    rw [if_pos chosen, if_pos chosen]
    refine Alike.bind (R := fun a b =>
      ShownAgain (f.scope.elementName (r.inputKey f.model field o)) x a.1 b.1) ?_
      fun a b _ _ again => .ok ⟨again, rfl⟩
    unfold association
    refine (itemsOf_same constant _ _).bind fun a b _ _ same => ?_
    obtain ⟨items, calls⟩ := a
    obtain ⟨items', calls'⟩ := b
    obtain rfl : items = items' := same
    rw [← place.model]
    cases found : r.schema.association? f.model field with
    | error e => exact .error e
    | ok assoc =>
      rw [assoc?_of_ok found] at key textual
      simp only [ok_bind, textual, Bool.false_eq_true, if_false]
      rw [key] at submitted ⊢
      refine (single_showing standard request place displayed plain items submitted given).bind ?_
      exact fun shown shown' _ _ again => .ok again
  · rw [if_neg chosen, declared] at textual
    have key : r.inputKey f.model field o = field := by rw [inputKey, if_neg chosen]
    rw [if_neg chosen, if_neg chosen]
    -- of all kinds only these two are textual
    have kinds : ControlKind.resolve (.ofDeclared type) o false = .text ∨
        ControlKind.resolve (.ofDeclared type) o false = .textarea := by
      dsimp only at textual
      split at textual
      · rename_i isText
        exact Or.inl isText
      · rename_i isArea
        exact Or.inr isArea
      · cases textual
    rw [key] at submitted ⊢
    refine (scalar_showing standard request place displayed plain kinds submitted).bind ?_
    exact fun shown shown' _ _ again => .ok ⟨again, rfl⟩

/-- **A submitted text is shown.** Drawn again with a submitted text, the item of a text control or
of a single select differs in this control alone, which shows the text. -/
theorem input_showing (standard : r.drawing.theme = .standard) (request : SameRequest c c')
    (place : SamePlace f f') (displayed : o.display = true) (plain : o.htmlOptions = [])
    (constant : r.IsConstant o.collection) (textual : r.isTextual f.model field o = true)
    (submitted : f'.value (r.inputKey f.model field o) = .text x) (given : x ≠ "") :
    Alike (fun out out' =>
        Redrawn (f.scope.elementName (r.inputKey f.model field o)) x out.html out'.html ∧
        out.listeners = out'.listeners)
      (r.input c f field o) (r.input c' f' field o) := by
  unfold Renderer.input
  rw [← place.model]
  refine .bind_same fun type declared => ?_
  refine (control_showing standard request place displayed plain constant textual submitted given
    declared).bind fun a b _ _ again => ?_
  obtain ⟨⟨desc, html⟩, kind, calls⟩ := a
  obtain ⟨⟨desc', html'⟩, kind', calls'⟩ := b
  obtain ⟨⟨rfl, redrawn⟩, rfl⟩ := again
  obtain ⟨around, isAround, drawn⟩ := item_drawn standard f field o kind desc
  -- the item around a control depends on neither its markup nor its value
  have drawn' : r.item f' field o kind ⟨desc.showing x, html'⟩ = .ok (around html') := by
    rw [← drawn html']
    simp only [Renderer.item, place.scope]
    rfl
  dsimp only
  rw [drawn, drawn']
  refine .ok ⟨redrawn.around isAround, ?_⟩
  simp only [listenersOf, request.modelName]
  rfl

end Render.Renderer

end Formwright
