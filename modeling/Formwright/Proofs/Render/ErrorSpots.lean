import Formwright.Proofs.Render.Controls
import Formwright.Proofs.Render.Rows

/-!
# Where a document shows errors

An error shows in two places: as a paragraph of the class `inline-errors` after a control, and in
the class `error` of the item around it. `spots` are the elements of a document that do either. Of
the built-in templates only that of errors has such paragraphs, and only items have the class; all
others add nothing to the spots of what they are put around.

- `Html.classes`, `Html.spots`: the elements that show an error.
- `fill_spotless`: templates without paragraphs and items.
- `errors_drawn`: the paragraphs of errors.
- `item_spots`, `fieldset_spots`, …: what the spots of a part of a form are.
-/

namespace Formwright

open Html Outcome Template

namespace Html

/-- The words of the class of an element. -/
def classes (h : Html) : List String :=
  (attr? "class" h.attrs).elim [] fun s => (Text.splitAt ' ' s.toList).map String.ofList

/-- The element is a paragraph with an error, or an item that is marked as having one. -/
def isSpot (h : Html) : Bool :=
  (h.tag? == some "p" && h.classes.contains "inline-errors") ||
    (h.tag? == some "li" && h.classes.contains "error")

/-- The elements that show an error, in document order. -/
def spots (hs : List Html) : List Html := (elementsAll hs).filter isSpot

@[simp] theorem spots_nil : spots [] = [] := rfl

@[simp] theorem spots_append (xs ys : List Html) : spots (xs ++ ys) = spots xs ++ spots ys := by
  rw [spots, elementsAll_append, List.filter_append]
  rfl

@[simp] theorem spots_piece (p : Piece) (rest : List Html) :
    spots (.piece p :: rest) = spots rest := rfl

theorem spots_joinLines (blocks : List (List Html)) :
    spots (joinLines blocks) = blocks.flatMap spots := by
  rw [spots, elementsAll_joinLines, List.filter_flatMap]
  rfl

theorem spots_element {tag : String} {attrs : List Attr} {body : List Html}
    (plain : (Html.element tag attrs body).isSpot = false) (rest : List Html) :
    spots (.element tag attrs body :: rest) = spots body ++ spots rest := by
  rw [spots, elementsAll_cons, elements_element, List.cons_append, List.filter_cons, plain,
    List.filter_append]
  rfl

theorem isSpot_of_tag {h : Html} (noParagraph : h.tag? ≠ some "p") (noItem : h.tag? ≠ some "li") :
    h.isSpot = false := by
  simp [isSpot, noParagraph, noItem]

theorem spots_one (tag : String) (attrs : List Attr) (body : List Html) :
    spots [.element tag attrs body] =
      (if (Html.element tag attrs body).isSpot then [.element tag attrs body] else []) ++
        spots body := by
  rw [spots, elementsAll_cons, elements_element, List.cons_append, List.filter_cons,
    elementsAll_nil, List.append_nil]
  split <;> rfl

@[simp] theorem spots_other {tag : String} {attrs : List Attr} {body rest : List Html}
    (noParagraph : tag ≠ "p") (noItem : tag ≠ "li") :
    spots (.element tag attrs body :: rest) = spots body ++ spots rest := by
  apply spots_element
  apply isSpot_of_tag
  · simpa [tag?] using noParagraph
  · simpa [tag?] using noItem

@[simp] theorem spots_void {tag : String} {attrs : List Attr} {rest : List Html}
    (noParagraph : tag ≠ "p") (noItem : tag ≠ "li") :
    spots (.void tag attrs :: rest) = spots rest := by
  have plain : (Html.void tag attrs).isSpot = false := by
    apply isSpot_of_tag
    · simpa [tag?] using noParagraph
    · simpa [tag?] using noItem
  rw [spots, elementsAll_cons, elements_void, List.cons_append, List.nil_append, List.filter_cons,
    plain]
  rfl

end Html

namespace Drawing

variable {d : Drawing} {hs : List Html}

theorem fill_spotless (standard : d.theme = .standard) (template : String)
    (body : List Template.Node) (listed : (template, body) ∈ Template.builtIn)
    (noParagraph : ((Node.partsAll body).all fun part => part.1 != "p") = true)
    (noItem : ((Node.partsAll body).all fun part => part.1 != "li") = true)
    {values : List (String × Value)} (h : d.fill template values = .ok hs) : spots hs = [] := by
  apply List.filter_eq_nil_iff.mpr
  intro x hx
  have plain : x.isSpot = false := by
    apply isSpot_of_tag
    · exact fill_noTag standard template "p" body listed noParagraph h x hx
    · exact fill_noTag standard template "li" body listed noItem h x hx
  rw [plain]
  exact Bool.false_ne_true

/-- The paragraph of an error. -/
def errorParagraph (sentence : Piece) : Html :=
  .element "p" [⟨.text "class", [.text "inline-errors"]⟩] [.piece sentence]

/-- The template of one error, repeated for all of them. -/
def paragraphTemplate : List Template.Node := [
  .element "p" [BuiltIn.fixed "class" "inline-errors"] [.slot (BuiltIn.var "message")],
  BuiltIn.lf]

theorem paragraph_fill (scope : Scope) (sentence : Piece) :
    Node.fillAll (("message", .value (Errors.ofPiece sentence)) :: scope) true paragraphTemplate =
      .ok [errorParagraph sentence, lineFeed] := by
  cases sentence <;> rfl

theorem sentences_eval (errors : List Value) :
    (Expr.sentences (BuiltIn.var "errors")).eval [("errors", .value (.list errors))] =
      (errors.mapM Errors.sentence).map fun sentences =>
        .value (.list (sentences.map Errors.ofPiece)) := by
  have members : (Value.list errors).membersOrNone = .ok errors := by
    cases errors <;> rfl
  simp only [Expr.eval, BuiltIn.var, List.lookup_cons, beq_self_eq_true, Option.getD_some, ok_bind,
    Binding.value?, Errors.sentencesOf, members]
  cases errors.mapM Errors.sentence with
  | error e => rfl
  | ok sentences => rfl

/-- The errors of a control are one paragraph for each, in order. -/
theorem errors_drawn (standard : d.theme = .standard) (errors : Option (List Value)) :
    d.errors errors = ((errors.getD []).mapM Errors.sentence).map fun sentences =>
      sentences.flatMap fun s => [errorParagraph s, lineFeed] := by
  unfold Drawing.errors
  split
  · rfl
  · rfl
  · rename_i errors _
    unfold Drawing.fill
    rw [standard, Theme.standard_fill "controls/errors.html" BuiltIn.errors
      (by simp [Template.builtIn])]
    have evaluated := sentences_eval errors
    rw [BuiltIn.errors, fillAll_one, Option.getD_some]
    cases said : errors.mapM Errors.sentence with
    | error e =>
      rw [said] at evaluated
      simp only [Node.fill, List.map_cons, List.map_nil, evaluated]
      rfl
    | ok sentences =>
      rw [said] at evaluated
      exact each_fill _ sentences evaluated (paragraph_fill _)

theorem spots_paragraphs (sentences : List Piece) :
    spots (sentences.flatMap fun s => [errorParagraph s, lineFeed]) =
      sentences.map errorParagraph := by
  induction sentences with
  | nil => rfl
  | cons s rest ih =>
    have one : spots [errorParagraph s, lineFeed] = [errorParagraph s] := by rfl
    rw [List.flatMap_cons, spots_append, one, ih]
    rfl

/-! ## Controls -/

/-- The markup of a control shows the sentences of some errors, one by one. -/
def Reports (errors : Option (List Value)) (hs : List Html) : Prop :=
  ∃ sentences, (errors.getD []).mapM Errors.sentence = .ok sentences ∧
    spots hs = sentences.map errorParagraph

/-- A control that shows no errors of its own reports those that are put after it. -/
theorem withErrors_reports (standard : d.theme = .standard) {desc : Descriptor}
    {body : Except Fault (List Html)} (h : d.withErrors desc body = .ok hs)
    (spotless : ∀ first, body = .ok first → spots first = []) : Reports desc.errors hs := by
  obtain ⟨first, drawn, h⟩ := bind_eq_ok.mp h
  obtain ⟨rest, errors, h⟩ := bind_eq_ok.mp h
  cases h
  rw [errors_drawn standard] at errors
  obtain ⟨sentences, written, rfl⟩ := exceptMap_eq_ok.mp errors
  refine ⟨sentences, written, ?_⟩
  rw [spots_append, spotless first drawn, spots_paragraphs, List.nil_append]

theorem input_spotless (standard : d.theme = .standard) {desc : Descriptor} {o : FieldOptions}
    (h : d.input desc o = .ok hs) : spots hs = [] := by
  obtain ⟨maxlength, -, h⟩ := bind_eq_ok.mp h
  exact fill_spotless standard "controls/input.html" BuiltIn.input (by simp [Template.builtIn])
    (by decide) (by decide) h

theorem temporal_spotless (standard : d.theme = .standard) {kind : Temporal.Kind}
    {desc : Descriptor} {o : FieldOptions} {today : Date}
    (h : d.temporal kind desc o today = .ok hs) : spots hs = [] := by
  obtain ⟨selects, -, h⟩ := bind_eq_ok.mp h
  exact fill_spotless standard "controls/datetime.html" BuiltIn.datetime
    (by simp [Template.builtIn]) (by decide) (by decide) h

theorem bare_spotless (standard : d.theme = .standard) {kind : ControlKind} {desc : Descriptor}
    {o : FieldOptions} {today : Date} (h : d.bare kind desc o today = .ok hs) :
    spots hs = [] := by
  cases kind with
  | boolean =>
    exact fill_spotless standard "controls/checkbox.html" BuiltIn.checkbox
      (by simp [Template.builtIn]) (by decide) (by decide) h
  | textarea =>
    exact fill_spotless standard "controls/textarea.html" BuiltIn.textarea
      (by simp [Template.builtIn]) (by decide) (by decide) h
  | file =>
    exact fill_spotless standard "controls/input.html" BuiltIn.input (by simp [Template.builtIn])
      (by decide) (by decide) h
  | date => exact temporal_spotless standard h
  | time => exact temporal_spotless standard h
  | datetime => exact temporal_spotless standard h
  | select => exact input_spotless standard h
  | collection => exact input_spotless standard h
  | text => exact input_spotless standard h

theorem scalar_reports (standard : d.theme = .standard) {kind : ControlKind} {desc : Descriptor}
    {o : FieldOptions} {today : Date} (h : d.scalar kind desc o today = .ok hs) :
    Reports desc.errors hs :=
  withErrors_reports standard h fun _ drawn => bare_spotless standard drawn

theorem select_reports (standard : d.theme = .standard) {desc : Descriptor}
    {choices : List SelectOption} {o : FieldOptions} (h : d.select desc choices o = .ok hs) :
    Reports desc.errors hs := by
  refine withErrors_reports standard h fun first drawn => ?_
  exact fill_spotless standard "controls/select.html" BuiltIn.select (by simp [Template.builtIn])
    (by decide) (by decide) drawn

theorem many_reports (standard : d.theme = .standard) {desc : Descriptor} {items : List Value}
    {o : FieldOptions} {identity : Value → Value} {selected : List Value}
    (h : d.many desc items o identity selected = .ok hs) : Reports desc.errors hs := by
  obtain ⟨texts, -, h⟩ := bind_eq_ok.mp h
  refine withErrors_reports standard h fun first drawn => ?_
  exact fill_spotless standard "controls/collection.html" BuiltIn.collection
    (by simp [Template.builtIn]) (by decide) (by decide) drawn

end Drawing

/-! ## Items -/

namespace Html

theorem classes_element (tag name : String) (attrs : List Attr) (body : List Html) :
    (Html.element tag (⟨.text "class", [.text name]⟩ :: attrs) body).classes =
      (Text.splitAt ' ' name.toList).map String.ofList := by
  simp [classes, Html.attrs]

end Html

/-- An item has the class `error` if there are errors of its field. -/
theorem itemClass_error (kind : ControlKind) (desc : Descriptor) :
    ((Text.splitAt ' ' (Render.Renderer.itemClass kind.name desc).toList).map
      String.ofList).contains "error" = desc.hasErrors := by
  unfold Render.Renderer.itemClass
  cases kind <;> cases desc.required <;> cases desc.hasErrors <;> decide +kernel

namespace Template

attribute [local simp] Node.fillAll Node.fill fillAttrs AttrSpec.fill fillParts Part.fill Expr.eval
  Condition.eval Binding.value? Binding.html Binding.pieces Binding.isTrue List.lookup_cons
  BuiltIn.var BuiltIn.lf BuiltIn.fixed BuiltIn.filled BuiltIn.hiddenUnlessVisible

theorem fieldset_fill_spots {legend : String} {visible : Bool} {body hs : List Html}
    (h : Theme.standard.fill "form/fieldset.html" [
        ("legend", .value (.text legend)),
        ("body", .fragment body),
        ("visible", .value (.bool visible))] = .ok hs) : spots hs = spots body := by
  rw [Theme.standard_fill "form/fieldset.html" BuiltIn.fieldset (by simp [Template.builtIn])] at h
  by_cases empty : legend = ""
  · subst empty
    cases visible <;> simp [BuiltIn.fieldset, Value.isTrue] at h <;> subst h <;> simp
  · have holds : (legend != "") = true := by simpa using empty
    cases visible <;> simp [BuiltIn.fieldset, Value.isTrue, holds] at h <;> subst h <;> simp

theorem actions_fill_spots {body hs : List Html}
    (h : Theme.standard.fill "form/actions.html" [("body", .fragment body)] = .ok hs) :
    spots hs = spots body := by
  rw [Theme.standard_fill "form/actions.html" BuiltIn.actions (by simp [Template.builtIn])] at h
  simp [BuiltIn.actions] at h
  subst h
  simp

theorem form_fill_spots {token : Option String} {put : Bool} {body hs : List Html}
    (h : Theme.standard.fill "form/form.html" [
        ("body", .fragment body),
        ("csrf_token", .value (.ofText? token)),
        ("method_put", .value (.bool put))] = .ok hs) : spots hs = spots body := by
  rw [Theme.standard_fill "form/form.html" BuiltIn.form (by simp [Template.builtIn])] at h
  have isPut : ∀ b, (Value.bool b).isTrue = b := fun _ => rfl
  cases holds : (Value.ofText? token).isTrue <;> cases put <;>
    simp [BuiltIn.form, holds, isPut] at h <;> subst h <;> simp

end Template

namespace Render.Renderer

variable {r : Renderer} {c : Context} {f : Frame} {field : String}

theorem spots_itemLabel (control : String) (required : Bool) (label : Option String) :
    spots (Template.itemLabel control required label) = [] := by
  cases label with
  | none => rfl
  | some label => cases required <;> rfl

theorem spots_itemBody (base : String) (ajax : Bool) (body : List Html) :
    spots (itemBody base ajax body) = spots body := by
  cases ajax with
  | false => simp [itemBody, lineFeed]
  | true => simp [itemBody, lineFeed]

/-- An item shows what its control shows, and errors of its field by its class. -/
theorem item_spots (standard : r.drawing.theme = .standard) {o : FieldOptions} {kind : ControlKind}
    {shown : Shown} {html : List Html} (h : r.item f field o kind.name shown = .ok html) :
    ∃ item, html = [item] ∧ item.tag? = some "li" ∧
      item.classes.contains "error" = shown.descriptor.hasErrors ∧
      spots [item] = (if shown.descriptor.hasErrors then [item] else []) ++ spots shown.html := by
  rw [item, standard, item_fill] at h
  cases h
  have marked := itemClass_error kind shown.descriptor
  refine ⟨_, rfl, rfl, ?_, ?_⟩
  · rw [classes_element]
    exact marked
  · rw [spots_one, isSpot, classes_element, marked]
    simp only [tag?, lineFeed, List.cons_append, spots_piece, spots_append, spots_itemLabel,
      spots_itemBody, List.nil_append]
    cases shown.descriptor.hasErrors <;> simp

/-! ## Parts of a form -/

theorem script_spots (standard : r.drawing.theme = .standard) {script : String} {out : Output}
    (h : r.script script = .ok out) : spots out.html = [] := by
  obtain ⟨html, filled, rfl⟩ := exceptMap_eq_ok.mp h
  have filled : r.drawing.fill "form/script.html" [("script", .markup script)] = .ok html := filled
  exact Drawing.fill_spotless standard "form/script.html" BuiltIn.script
    (by simp [Template.builtIn]) (by decide) (by decide) filled

theorem fieldset_spots (standard : r.drawing.theme = .standard) {label : String} {o : FieldOptions}
    {body out : Output} (h : r.fieldset c label o body = .ok out) :
    spots out.html = spots body.html := by
  obtain ⟨html, filled, h⟩ := bind_eq_ok.mp h
  cases h
  rw [standard] at filled
  exact fieldset_fill_spots filled

theorem actions_spots (standard : r.drawing.theme = .standard) {body out : Output}
    (h : r.actions body = .ok out) : spots out.html = spots body.html := by
  obtain ⟨html, filled, h⟩ := bind_eq_ok.mp h
  cases h
  rw [standard] at filled
  exact actions_fill_spots filled

theorem spots_removalItem (rowId destroy : String) (rest : List Html) :
    spots (removalItem rowId destroy :: rest) = spots rest := by
  have unmarked : ((Text.splitAt ' ' "boolean input optional".toList).map String.ofList).contains
      "error" = false := by decide +kernel
  have plain : (removalItem rowId destroy).isSpot = false := by
    rw [removalItem, isSpot, classes_element, unmarked]
    rfl
  rw [removalItem] at plain ⊢
  rw [spots_element plain]
  simp [lineFeed]

theorem row_spots (standard : r.drawing.theme = .standard) {row : Frame} {body out : Output}
    (h : r.row row field body = .ok out) : spots out.html = spots body.html := by
  obtain ⟨html, filled, h⟩ := bind_eq_ok.mp h
  cases h
  rw [standard, row_fill] at filled
  cases filled
  change spots (Html.element _ _ _ :: []) = _
  cases (r.schema.identity row.record).isNone <;>
    simp [lineFeed, spots_removalItem, identityInput]

theorem templateRow_spots (standard : r.drawing.theme = .standard) {row : Frame}
    {body out : Output} (h : r.templateRow row field body = .ok out) :
    spots out.html = spots body.html := by
  obtain ⟨html, filled, h⟩ := bind_eq_ok.mp h
  cases h
  rw [standard, templateRow_fill] at filled
  cases filled
  change spots (Html.element _ _ _ :: []) = _
  simp [lineFeed]

theorem hasMany_spots (standard : r.drawing.theme = .standard) {drawn : List Output}
    {template out : Output} (h : r.hasMany f field drawn template = .ok out) :
    spots out.html = (drawn.flatMap fun part => spots part.html) ++ spots template.html := by
  rw [hasMany_html standard h, blockIn, blockMarkup]
  simp [lineFeed, spots_joinLines, List.flatMap_map]

end Render.Renderer

end Formwright
