import Formwright.Proofs.Markup.Hiding
import Formwright.Proofs.Render.ErrorSpots
import Formwright.Proofs.Render.ReadBack

/-!
# What parts of a form hide

Only two templates can hide what they draw: that of an item and that of a group. Controls hide
nothing, whatever values they show, as long as no option of their field gives them a style; so the
items and groups of a form are exposed as they are drawn.

- `drawn_exposures`: controls.
- `itemMarkup_exposures`, `fieldsetMarkup_exposures`, `rowMarkup_exposures`, …: what is put around
  them.
- `itemMarkup_reveal`, `fieldsetMarkup_reveal`, `rowMarkup_reveal`, …: parts without the attribute
  that hides.
- `item_eq`, `fieldset_eq`, `row_eq`, …: parts of a form in full.
-/

namespace Formwright

open Html Outcome Template

/-! ## Controls -/

namespace Drawing

variable {d : Drawing} {desc : Descriptor} {o : FieldOptions} {hs : List Html}

/-- A template without items and groups, and without an attribute for the style, hides nothing. -/
theorem fill_exposures (standard : d.theme = .standard) (template : String)
    (body : List Template.Node) (listed : (template, body) ∈ Template.builtIn)
    (other : ((Node.partsAll body).all fun part => part.1 != "li" && part.1 != "fieldset" &&
      part.2.all (AttrSpec.lacks "style")) = true)
    {values : List (String × Value)} (h : d.fill template values = .ok hs) :
    exposures hs = [] := by
  unfold Drawing.fill at h
  rw [standard, Theme.standard_fill template body listed] at h
  refine List.filterMap_eq_nil_iff.mpr fun x hx => ?_
  rcases fillAll_mem body h x hx with ⟨part, mem, isTag, scope, filled⟩ | ofFragment
  · have kept := List.all_eq_true.mp other part mem
    simp only [Bool.and_eq_true, bne_iff_ne] at kept
    obtain ⟨⟨noItem, noGroup⟩, lacks⟩ := kept
    have seen : x.isHidden = false := hides_of_attr? (fillAttrs_lacks "style" lacks filled)
    simp [exposure?, isTag, noItem, noGroup, seen]
  · rw [fragmentElements_values (valueScope values)] at ofFragment
    cases ofFragment

theorem spreadAttrs_seen {entries : List (Value × Value)} {attrs : List Attr}
    (unset : ∀ e ∈ entries, e.1.string? ≠ some "style") (h : spreadAttrs entries = .ok attrs) :
    attrs.any Attr.hides = false := by
  induction entries generalizing attrs with
  | nil => cases h; rfl
  | cons e rest ih =>
    obtain ⟨key, v⟩ := e
    have restUnset : ∀ e ∈ rest, e.1.string? ≠ some "style" :=
      fun e mem => unset e (List.mem_cons_of_mem _ mem)
    unfold spreadAttrs at h
    split at h
    · exact ih restUnset h
    · split at h
      · cases h
      · rename_i name isName
        split at h
        · cases h
        · obtain ⟨after, spread, h⟩ := bind_eq_ok.mp h
          cases h
          have other : key.piece.content ≠ "style" := by
            rw [content_piece_of_string? isName]
            rintro rfl
            exact unset _ List.mem_cons_self isName
          rw [List.any_cons, Attr.hides_other other, ih restUnset spread]
          rfl

/-- The attributes of a control do not hide it if the options of its field set no style. -/
theorem overlay_seen {own more : List (String × Value)} {attrs : List Attr}
    (ownUnset : ∀ a ∈ own, a.1 ≠ "style") (moreUnset : ∀ a ∈ more, a.1 ≠ "style")
    (h : spreadAttrs (overlay own more) = .ok attrs) : attrs.any Attr.hides = false := by
  refine spreadAttrs_seen (fun e mem isStyle => ?_) h
  obtain ⟨e', mem, same⟩ := Value.key_of_mem_tableOf mem
  obtain ⟨a, given, rfl⟩ := List.mem_map.mp mem
  rw [← same] at isStyle
  rcases List.mem_append.mp given with given | given
  · exact ownUnset a given (Option.some.inj isStyle)
  · exact moreUnset a given (Option.some.inj isStyle)

theorem checkbox_exposures (standard : d.theme = .standard) (unset : Leaves o "style")
    (h : d.checkbox desc o = .ok hs) : exposures hs = [] := by
  have known : "name" ∈ (d.givenAttrs .boolean desc o).map (·.1) := by
    simp [givenAttrs, ownAttrs]
  have found := (Value.named?_tableOf (d.givenAttrs .boolean desc o) "name").trans
    (Value.lookup_lastGiven known)
  unfold checkbox at h
  obtain ⟨attrs, spread, rfl⟩ :=
    exceptMap_eq_ok.mp ((checkboxTemplate_fill standard found).symm.trans h)
  have seen := overlay_seen (by simp [ownAttrs]) unset spread
  simp [seen]

theorem textarea_exposures (standard : d.theme = .standard) (unset : Leaves o "style")
    (h : d.textarea desc o = .ok hs) : exposures hs = [] := by
  unfold textarea at h
  rw [textareaTemplate_fill standard] at h
  obtain ⟨attrs, spread, rfl⟩ := exceptMap_eq_ok.mp h
  have seen := overlay_seen (by simp) (unset.withClass (by decide)) spread
  rw [exposures_other (by decide) (by decide) seen]
  cases displayText desc.value <;> rfl

theorem file_exposures (standard : d.theme = .standard) (unset : Leaves o "style")
    (h : d.file desc o = .ok hs) : exposures hs = [] := by
  unfold file at h
  rw [inputTemplate_fill standard] at h
  obtain ⟨attrs, spread, rfl⟩ := exceptMap_eq_ok.mp h
  exact exposures_input (overlay_seen (by simp) (unset.withClass (by decide)) spread)

theorem input_exposures (standard : d.theme = .standard) (unset : Leaves o "style")
    (h : d.input desc o = .ok hs) : exposures hs = [] := by
  obtain ⟨maxlength, -, h⟩ := bind_eq_ok.mp h
  rw [inputTemplate_fill standard] at h
  obtain ⟨attrs, spread, rfl⟩ := exceptMap_eq_ok.mp h
  exact exposures_input (overlay_seen (by simp) (unset.withClass (by decide)) spread)

theorem temporal_exposures (standard : d.theme = .standard) {kind : Temporal.Kind} {today : Date}
    (h : d.temporal kind desc o today = .ok hs) : exposures hs = [] := by
  obtain ⟨selects, -, h⟩ := bind_eq_ok.mp h
  exact fill_exposures standard "controls/datetime.html" BuiltIn.datetime
    (by simp [Template.builtIn]) (by decide) h

theorem bare_exposures (standard : d.theme = .standard) (unset : Leaves o "style")
    {kind : ControlKind} {today : Date} (h : d.bare kind desc o today = .ok hs) :
    exposures hs = [] := by
  cases kind with
  | boolean => exact checkbox_exposures standard unset h
  | textarea => exact textarea_exposures standard unset h
  | date => exact temporal_exposures standard h
  | time => exact temporal_exposures standard h
  | datetime => exact temporal_exposures standard h
  | file => exact file_exposures standard unset h
  | select => exact input_exposures standard unset h
  | collection => exact input_exposures standard unset h
  | text => exact input_exposures standard unset h

/-- Errors after a control hide nothing. -/
theorem withErrors_exposures (standard : d.theme = .standard)
    {body : Except Fault (List Html)} (h : d.withErrors desc body = .ok hs)
    (clear : ∀ first, body = .ok first → exposures first = []) : exposures hs = [] := by
  obtain ⟨first, drawn, h⟩ := bind_eq_ok.mp h
  obtain ⟨rest, sentences, h⟩ := bind_eq_ok.mp h
  cases h
  have errors : exposures rest = [] := by
    unfold Drawing.errors at sentences
    split at sentences
    · cases sentences; rfl
    · cases sentences; rfl
    · exact fill_exposures standard "controls/errors.html" BuiltIn.errors
        (by simp [Template.builtIn]) (by decide) sentences
  rw [exposures_append, clear first drawn, errors]
  rfl

theorem choices_exposures (choices : List SelectOption) :
    exposures (choices.flatMap fun c => [optionMarkup c, lineFeed]) = [] := by
  rw [exposures_flatMap, List.flatMap_eq_nil_iff]
  rintro ⟨value, label, selected⟩ -
  cases selected <;> simp [optionMarkup]

theorem promptMarkup_exposures (prompt : Option String) : exposures (promptMarkup prompt) = [] := by
  unfold promptMarkup
  split
  · rfl
  · split <;> simp

theorem select_exposures (standard : d.theme = .standard) (unset : Leaves o "style")
    {choices : List SelectOption} (h : d.select desc choices o = .ok hs) : exposures hs = [] := by
  refine withErrors_exposures standard h fun first drawn => ?_
  rw [selectTemplate_fill standard] at drawn
  obtain ⟨attrs, spread, rfl⟩ := exceptMap_eq_ok.mp drawn
  have seen := overlay_seen (by simp) (unset.withClass (by decide)) spread
  rw [selectMarkup, exposures_other (by decide) (by decide) seen, List.cons_append,
    exposures_lineFeed, exposures_append, promptMarkup_exposures, choices_exposures]
  rfl

theorem many_exposures (standard : d.theme = .standard) {items : List Value}
    {identity : Value → Value} {selected : List Value}
    (h : d.many desc items o identity selected = .ok hs) : exposures hs = [] := by
  obtain ⟨texts, -, h⟩ := bind_eq_ok.mp h
  refine withErrors_exposures standard h fun first drawn => ?_
  exact fill_exposures standard "controls/collection.html" BuiltIn.collection
    (by simp [Template.builtIn]) (by decide) drawn

end Drawing

namespace Render.Renderer

variable {r : Renderer} {c : Context} {f : Frame} {field : String} {o : FieldOptions}

theorem drawn_exposures (standard : r.drawing.theme = .standard)
    (unset : Drawing.Leaves o "style") {shown : Shown} (h : Drawn r c f field o shown) :
    exposures shown.html = [] := by
  cases h with
  | many _ _ drawn => exact Drawing.many_exposures standard drawn
  | single _ drawn => exact Drawing.select_exposures standard unset drawn
  | scalar _ _ drawn =>
    exact Drawing.withErrors_exposures standard drawn
      fun _ bare => Drawing.bare_exposures standard unset bare

end Render.Renderer

/-! ## Around controls -/

namespace Template

/-- The attribute of what is not seen. -/
def hidingAttrs (visible : Bool) : List Attr :=
  if visible then [] else [⟨.text "style", [.text "display: none"]⟩]

theorem hidingAttrs_hides (visible : Bool) : (hidingAttrs visible).any Attr.hides = !visible := by
  cases visible <;> decide

theorem itemLabel_exposures (control : String) (required : Bool) (label : Option String) :
    exposures (itemLabel control required label) = [] := by
  cases label with
  | none => rfl
  | some label => cases required <;> simp [itemLabel]

theorem itemBody_exposures (base : String) (ajax : Bool) (body : List Html) :
    exposures (itemBody base ajax body) = exposures body := by
  cases ajax <;> simp [itemBody]

theorem itemBody_reveal (base : String) (ajax : Bool) (body : List Html) :
    revealAll (itemBody base ajax body) = itemBody base ajax (revealAll body) := by
  cases ajax <;> simp [itemBody, lineFeed, reveal]

theorem legendMarkup_exposures (legend : String) : exposures (legendMarkup legend) = [] := by
  unfold legendMarkup
  split <;> simp

/-- An item, which may be hidden. -/
def itemMarkup (kind base control : String) (label : Option String) (required visible ajax : Bool)
    (body : List Html) : Html :=
  .element "li" (⟨.text "class", [.text kind]⟩ :: ⟨.text "id", [.text base, .text "_input"]⟩ ::
      hidingAttrs visible)
    (lineFeed :: itemLabel control required label ++ itemBody base ajax body)

/-- A group, which may be hidden. -/
def fieldsetMarkup (legend : String) (visible : Bool) (body : List Html) : Html :=
  .element "fieldset" (⟨.text "class", [.text "inputs"]⟩ :: hidingAttrs visible)
    (lineFeed :: legendMarkup legend ++
      [.element "ol" [] (lineFeed :: body ++ [lineFeed]), lineFeed])

variable {kind base control legend : String} {label : Option String}
  {required visible ajax : Bool} {body : List Html}

theorem itemMarkup_exposures :
    exposures [itemMarkup kind base control label required visible ajax body] =
      ⟨"li", some (base ++ "_input"), !visible⟩ :: exposures body := by
  have id : contentOf [.text base, .text "_input"] = base ++ "_input" := by
    simp [contentOf, String.join]
  rw [itemMarkup, exposures_element]
  simp [exposure?, tag?, isHidden, id?, Html.attrs, hidingAttrs_hides, itemLabel_exposures,
    itemBody_exposures, id]

theorem itemMarkup_reveal :
    revealAll [itemMarkup kind base control label required visible ajax body] =
      [itemMarkup kind base control label required true ajax (revealAll body)] := by
  have same := revealAll_of_exposures _ (itemLabel_exposures control required label)
  cases visible <;>
    simp [itemMarkup, reveal, hidingAttrs, Attr.hides_style, same, itemBody_reveal]

theorem fieldsetMarkup_exposures :
    exposures [fieldsetMarkup legend visible body] =
      ⟨"fieldset", none, !visible⟩ :: exposures body := by
  have anonymous : attr? "id" (⟨.text "class", [.text "inputs"]⟩ :: hidingAttrs visible) =
      none := by
    cases visible <;> simp [hidingAttrs]
  rw [fieldsetMarkup, exposures_element]
  simp [exposure?, tag?, isHidden, id?, Html.attrs, hidingAttrs_hides, legendMarkup_exposures,
    anonymous]

theorem fieldsetMarkup_reveal :
    revealAll [fieldsetMarkup legend visible body] =
      [fieldsetMarkup legend true (revealAll body)] := by
  have same := revealAll_of_exposures _ (legendMarkup_exposures legend)
  cases visible <;> simp [fieldsetMarkup, reveal, hidingAttrs, Attr.hides_style, same]

/-- A group of actions. -/
def actionsMarkup (body : List Html) : Html :=
  .element "fieldset" [⟨.text "class", [.text "actions"]⟩] [
    lineFeed, .element "ol" [] (lineFeed :: body ++ [lineFeed]), lineFeed]

theorem actions_fill (body : List Html) :
    Theme.standard.fill "form/actions.html" [("body", .fragment body)] =
      .ok [actionsMarkup body] := by
  rw [Theme.standard_fill "form/actions.html" BuiltIn.actions (by simp [Template.builtIn])]
  rfl

theorem actionsMarkup_exposures :
    exposures [actionsMarkup body] = ⟨"fieldset", none, false⟩ :: exposures body := by
  rw [actionsMarkup, exposures_element]
  simp [exposure?, tag?, isHidden, id?, Html.attrs]

theorem actionsMarkup_reveal :
    revealAll [actionsMarkup body] = [actionsMarkup (revealAll body)] := by
  simp [actionsMarkup, reveal]

/-! ## Rows -/

/-- A row, which has a box and an input of its own if it has an identity. -/
def rowMarkup (rowId destroy name : String) (identity : Value) (body : List Html) : Html :=
  .element "fieldset" [⟨.text "class", [.text "inputs has_many_fields"]⟩,
      ⟨.text "id", [.text rowId]⟩]
    ([lineFeed,
      .element "ol" [] (lineFeed :: body ++ lineFeed ::
        if identity.isNone then [] else [removalItem rowId destroy, lineFeed]),
      lineFeed] ++
      if identity.isNone then [] else [identityInput rowId name identity, lineFeed])

variable {rowId destroy name : String} {identity : Value}

/-- The item of the box that removes a row is seen. -/
def removalExposure (rowId : String) (identity : Value) : List Exposure :=
  if identity.isNone then [] else [⟨"li", some (rowId ++ "__destroy_input"), false⟩]

theorem removalItem_exposures :
    exposures [removalItem rowId destroy] = [⟨"li", some (rowId ++ "__destroy_input"), false⟩] := by
  have id : contentOf [.text rowId, .text "__destroy_input"] = rowId ++ "__destroy_input" := by
    simp [contentOf, String.join]
  rw [removalItem, exposures_element]
  simp [exposure?, tag?, isHidden, id?, Html.attrs, id]

theorem rowMarkup_exposures :
    exposures [rowMarkup rowId destroy name identity body] =
      ⟨"fieldset", some rowId, false⟩ :: (exposures body ++ removalExposure rowId identity) := by
  rw [rowMarkup, exposures_element]
  cases absent : identity.isNone with
  | true => simp [exposure?, tag?, isHidden, id?, Html.attrs, removalExposure, absent]
  | false =>
    have split : exposures [removalItem rowId destroy, lineFeed] =
        [⟨"li", some (rowId ++ "__destroy_input"), false⟩] := removalItem_exposures
    simp [exposure?, tag?, isHidden, id?, Html.attrs, removalExposure, absent, split,
      identityInput]

theorem rowMarkup_reveal :
    revealAll [rowMarkup rowId destroy name identity body] =
      [rowMarkup rowId destroy name identity (revealAll body)] := by
  have removal : (removalItem rowId destroy).reveal = removalItem rowId destroy := by
    simp [removalItem, reveal]
  have own : (identityInput rowId name identity).reveal = identityInput rowId name identity := by
    simp [identityInput, reveal]
  cases absent : identity.isNone <;> simp [rowMarkup, reveal, absent, removal, own]

theorem blockMarkup_exposures (relation label templateId onclick : String)
    (rows template : List Html) :
    exposures (blockMarkup relation label templateId onclick rows template) =
      exposures rows ++ exposures template := by
  simp [blockMarkup]

theorem blockMarkup_reveal (relation label templateId onclick : String)
    (rows template : List Html) :
    revealAll (blockMarkup relation label templateId onclick rows template) =
      blockMarkup relation label templateId onclick (revealAll rows) (revealAll template) := by
  simp [blockMarkup, reveal]

/-! ## The form -/

section Form

attribute [local simp] Node.fillAll Node.fill fillAttrs AttrSpec.fill fillParts Part.fill Expr.eval
  Condition.eval Binding.value? Binding.html Binding.pieces Binding.isTrue List.lookup_cons
  BuiltIn.var BuiltIn.lf BuiltIn.fixed BuiltIn.filled

theorem form_around (token : Option String) (put : Bool) :
    ∃ before, exposures before = [] ∧
      ∀ body, Theme.standard.fill "form/form.html" [
        ("body", .fragment body),
        ("csrf_token", .value (.ofText? token)),
        ("method_put", .value (.bool put))] = .ok (before ++ body) := by
  simp only [Theme.standard_fill "form/form.html" BuiltIn.form (by simp [Template.builtIn])]
  have isPut : ∀ b, (Value.bool b).isTrue = b := fun _ => rfl
  -- the box of the hidden values has a style of its own, which is another one
  have styled :
      Attr.hides ⟨.text "style", [.text "margin:0;padding:0;display:inline"]⟩ = false := by
    decide
  cases holds : (Value.ofText? token).isTrue <;> cases put <;>
    simp [BuiltIn.form, holds, isPut]
  all_goals
    refine ⟨[_, _], ?_, fun _ => rfl⟩
    simp [styled]

end Form

end Template

namespace Render.Renderer

variable {r : Renderer} {c : Context} {f : Frame} {field : String} {o : FieldOptions}

theorem script_exposures (standard : r.drawing.theme = .standard) {script : String} {out : Output}
    (h : r.script script = .ok out) : exposures out.html = [] := by
  obtain ⟨html, filled, rfl⟩ := exceptMap_eq_ok.mp h
  have filled : r.drawing.fill "form/script.html" [("script", .markup script)] = .ok html := filled
  exact Drawing.fill_exposures standard "form/script.html" BuiltIn.script
    (by simp [Template.builtIn]) (by decide) filled

/-! ## Parts of a form in full -/

theorem item_eq (standard : r.drawing.theme = .standard) (kind : String) (shown : Shown) :
    r.item f field o kind shown = .ok [itemMarkup (itemClass kind shown.descriptor)
      (f.scope.elementId field) shown.descriptor.id shown.descriptor.label
      shown.descriptor.required shown.descriptor.visible o.ajax shown.html] := by
  rw [item, standard, item_fill]
  rfl

/-- The legend of a group: its label, unless an option gives it another one. -/
def legendOf (label : String) (o : FieldOptions) : String :=
  match o.label with
  | some (.text s) => if s == "" then label else s
  | _ => label

theorem fieldset_eq (standard : r.drawing.theme = .standard) (label : String) (body : Output) :
    r.fieldset c label o body = .ok (body.around
      [fieldsetMarkup (legendOf label o) (o.display || c.isEditing) body.html]) := by
  unfold fieldset legendOf
  simp only [standard, fieldset_fill]
  rcases o.label with _ | s | _ <;> rfl

theorem actions_eq (standard : r.drawing.theme = .standard) (body : Output) :
    r.actions body = .ok (body.around [actionsMarkup body.html]) := by
  unfold actions
  rw [standard, actions_fill]
  rfl

/-- The markup of a row around its nodes. -/
def rowIn (row : Frame) (identity : Value) (body : List Html) : List Html :=
  [rowMarkup row.scope.idPrefix (row.scope.elementName "_destroy") (row.scope.elementName "id")
    identity body]

theorem row_eq (standard : r.drawing.theme = .standard) (row : Frame) (body : Output) :
    r.row row field body = .ok (((if row.record.isNone then body.silent else body).around
      (rowIn row (r.schema.identity row.record) body.html)).after (.build field row.record)) := by
  unfold Renderer.row
  simp only [standard, row_fill]
  rfl

theorem templateRow_eq (standard : r.drawing.theme = .standard) (row : Frame) (body : Output) :
    r.templateRow row field body =
      .ok ((body.silent.around (rowIn row .none body.html)).after (.build field .none)) := by
  unfold templateRow
  simp only [standard, templateRow_fill]
  rfl

end Render.Renderer

end Formwright
