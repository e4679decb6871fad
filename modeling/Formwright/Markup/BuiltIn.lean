import Formwright.Markup.Template

/-!
# Built-in templates

The fourteen templates a form is drawn with, under their names. The templates of controls draw one
control and its errors; those of forms draw the item around a control, groups, rows of related
records, and the form itself.
-/

namespace Formwright.Template

namespace BuiltIn

def var (name : String) : Expr := .name name

def lf : Node := .text "\n"

def fixed (name value : String) : AttrSpec := .always name [.text value]

def filled (name : String) (e : Expr) : AttrSpec := .always name [.slot e]

/-! ## Controls -/

/-- A box preceded by a hidden value, which is submitted when the box is not checked. -/
def checkbox : List Node := [
  .void "input" [fixed "type" "hidden", fixed "value" "false",
    filled "name" (.member (var "attrs") "name")],
  lf,
  .void "input" [.spread (var "attrs")]]

def input : List Node := [.void "input" [.spread (var "attrs")]]

def textarea : List Node := [
  .element "textarea" [.spread (var "attrs")]
    [.choose (.present (var "value")) [.slot (var "value")] []]]

def choices (of : Expr) : Node :=
  .each "option" of [
    .element "option" [filled "value" (.member (var "option") "value"),
        .when (.holds (.member (var "option") "selected")) "selected" [.text "selected"]]
      [.slot (.member (var "option") "label")],
    lf]

/-- A select with an empty choice for the prompt. -/
def select : List Node := [
  .element "select" [.spread (var "attrs")] [
    lf,
    .choose (.holds (var "prompt")) [
      .element "option" [fixed "value" ""] [.slot (var "prompt")],
      lf] [],
    choices (var "options")]]

def boxes (group label type : String) : List Node := [
  .element "div" [fixed "class" group] [
    lf,
    .each "option" (var "options") [
      .element "label" [fixed "class" label, filled "for" (.member (var "option") "id")] [
        .void "input" [fixed "type" type,
          filled "id" (.member (var "option") "id"),
          filled "name" (.member (var "option") "name"),
          filled "value" (.member (var "option") "value"),
          .when (.holds (.member (var "option") "selected")) "checked" [.text "checked"]],
        .text " ",
        .slot (.member (var "option") "label")],
      lf]],
  lf]

/-- Any number of choices: check boxes, radio buttons or a multiple select, after a hidden empty
value that lets an empty selection be submitted. -/
def collection : List Node := [
  .void "input" [filled "name" (var "name"), fixed "type" "hidden", fixed "value" ""],
  lf,
  .choose (.equals (var "style") "check_boxes") (boxes "check-boxes" "checkbox" "checkbox") [
    .choose (.equals (var "style") "radio") (boxes "radio-buttons" "radio" "radio") [
      .element "select" [filled "id" (var "id"), fixed "class" "form-control",
          fixed "multiple" "multiple", filled "name" (var "name")] [
        lf,
        choices (var "options")],
      lf]]]

def datetime : List Node := [
  .each "control" (var "controls") [
    .choose (.holds (.member (var "control") "separator")) [
      .element "span" [filled "class" (.member (var "control") "separator")] [],
      lf] [],
    .element "select" [fixed "class" "form-control date-time",
        filled "id" (.member (var "control") "id"),
        filled "name" (.member (var "control") "name")] [
      lf,
      choices (.member (var "control") "options")],
    lf]]

def errors : List Node := [
  .each "message" (.sentences (var "errors")) [
    .element "p" [fixed "class" "inline-errors"] [.slot (var "message")],
    lf]]

/-! ## Forms -/

def hiddenUnlessVisible : AttrSpec :=
  .when (.negate (.holds (var "visible"))) "style" [.text "display: none"]

/-- The whole form: hidden values first, then the body. -/
def form : List Node := [
  .element "div" [fixed "style" "margin:0;padding:0;display:inline"] [
    lf,
    .void "input" [fixed "name" "utf8", fixed "type" "hidden",
      .always "value" [.reference "&#x2713;"]],
    lf,
    .choose (.holds (var "csrf_token")) [
      .void "input" [fixed "type" "hidden", fixed "name" "_csrf_token",
        filled "value" (var "csrf_token")],
      lf] [],
    .choose (.holds (var "method_put")) [
      .void "input" [fixed "name" "_method", fixed "value" "put", fixed "type" "hidden"],
      lf] []],
  lf,
  .slot (var "body")]

def item : List Node := [
  .element "li" [filled "class" (var "css_class"),
      .always "id" [.slot (var "base_id"), .text "_input"], hiddenUnlessVisible] [
    lf,
    .choose (.present (var "label")) [
      .element "label" [fixed "class" "label", filled "for" (var "control_id")] [
        .slot (var "label"),
        .choose (.holds (var "required"))
          [.element "abbr" [fixed "class" "required", fixed "title" "required"] [.text "*"]] []],
      lf] [],
    .choose (.holds (var "ajax")) [
      .element "div" [.always "id" [.slot (var "base_id"), .text "-update"]]
        [lf, .slot (var "body"), lf],
      lf] [
      .slot (var "body"),
      lf]]]

def fieldset : List Node := [
  .element "fieldset" [fixed "class" "inputs", hiddenUnlessVisible] [
    lf,
    .choose (.holds (var "legend")) [
      .element "legend" [] [.element "span" [] [.slot (var "legend")]],
      lf] [],
    .element "ol" [] [lf, .slot (var "body"), lf],
    lf]]

def actions : List Node := [
  .element "fieldset" [fixed "class" "actions"] [
    lf,
    .element "ol" [] [lf, .slot (var "body"), lf],
    lf]]

def script : List Node := [
  .element "script" [fixed "type" "text/javascript"] [lf, .slot (var "script"), lf]]

/-- The rows of a relation, the template of a new row and the link that adds one. -/
def hasMany : List Node := [
  .element "div" [.always "class" [.text "has_many ", .slot (var "relation")]] [
    lf,
    .element "h3" [] [.slot (.label (var "human_label"))],
    lf,
    .slot (var "rows"),
    lf,
    .element "template" [fixed "class" "has-many-template", filled "id" (var "template_id")]
      [lf, .slot (var "template"), lf],
    lf,
    .element "a" [fixed "class" "btn btn-primary", fixed "href" "#",
        filled "onclick" (var "onclick")]
      [.text "Add New ", .slot (.label (var "human_label"))],
    lf]]

/-- An id made of the id of the row and a suffix. -/
def rowId (name suffix : String) : AttrSpec :=
  .always name [.slot (var "fieldset_id"), .text suffix]

/-- One row of a relation. A row with an identity has a box that removes it and a hidden input
with the identity. -/
def hasManyFieldset : List Node := [
  .element "fieldset" [fixed "class" "inputs has_many_fields", filled "id" (var "fieldset_id")] [
    lf,
    .element "ol" [] [
      lf,
      .slot (var "body"),
      lf,
      .choose (.present (var "identity")) [
        .element "li" [fixed "class" "boolean input optional", rowId "id" "__destroy_input"] [
          lf,
          .void "input" [fixed "type" "hidden", fixed "value" "false",
            filled "name" (var "destroy_name")],
          lf,
          .element "label" [fixed "class" "label", rowId "for" "__destroy"] [
            .void "input" [fixed "type" "checkbox", rowId "id" "__destroy",
              filled "name" (var "destroy_name"), fixed "value" "true"],
            .text " Remove"],
          lf],
        lf] []],
    lf,
    .choose (.present (var "identity")) [
      .void "input" [rowId "id" "_id", filled "name" (var "identity_name"),
        filled "value" (var "identity"), fixed "type" "hidden"],
      lf] []]]

end BuiltIn

def builtIn : List (String × List Node) := [
  ("controls/checkbox.html", BuiltIn.checkbox),
  ("controls/collection.html", BuiltIn.collection),
  ("controls/datetime.html", BuiltIn.datetime),
  ("controls/errors.html", BuiltIn.errors),
  ("controls/input.html", BuiltIn.input),
  ("controls/select.html", BuiltIn.select),
  ("controls/textarea.html", BuiltIn.textarea),
  ("form/actions.html", BuiltIn.actions),
  ("form/fieldset.html", BuiltIn.fieldset),
  ("form/form.html", BuiltIn.form),
  ("form/has_many.html", BuiltIn.hasMany),
  ("form/has_many_fieldset.html", BuiltIn.hasManyFieldset),
  ("form/item.html", BuiltIn.item),
  ("form/script.html", BuiltIn.script)]

end Formwright.Template
