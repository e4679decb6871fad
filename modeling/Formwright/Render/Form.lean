import Formwright.Form.Tree
import Formwright.Render.Field
import Formwright.Render.Rows

/-!
# Rendering forms

A tree is rendered node by node, in order. Groups are drawn around their nodes. A has-many relation
is drawn as one row for every related record, in a scope of its own, followed by the template of a
new row; the template's listeners are dropped, because its controls are never used themselves.

How an input is drawn in its frame is a parameter of the walk over the tree, so that two renderings
can be compared that differ in their inputs alone.

## Contents

* `Drawer`: how inputs are drawn.
* `Renderer.node`, `Renderer.nodes`: parts of a form.
* `Renderer.formBy`, `Renderer.form`: a whole form.
-/

namespace Formwright.Render

open Form Words

/-- How an input with a field and options is drawn in a frame. -/
abbrev Drawer := Frame → String → FieldOptions → Except Fault Output

namespace Renderer

def fieldset (r : Renderer) (c : Context) (label : String) (o : FieldOptions) (body : Output) :
    Except Fault Output := do
  let legend := match o.label with
    | some (.text s) => if s == "" then label else s
    | _ => label
  return body.around (← r.drawing.theme.fill "form/fieldset.html" [
    ("legend", .value (.text legend)),
    ("body", .fragment body.html),
    ("visible", .value (.bool (o.display || c.isEditing)))])

def actions (r : Renderer) (body : Output) : Except Fault Output := do
  return body.around (← r.drawing.theme.fill "form/actions.html" [("body", .fragment body.html)])

def script (r : Renderer) (script : String) : Except Fault Output :=
  (r.drawing.theme.fill "form/script.html" [("script", .value (.markup script))]).map .ofHtml

/-- The rows to draw for a relation. -/
structure Relation where
  /-- The model of the related records. -/
  related : String
  records : List Value
  /-- What was submitted for the rows. -/
  submitted : Value

/-- The rows of a relation, which has to be a has-many association. -/
def relation (r : Renderer) (f : Frame) (field : String) : Except Fault Relation := do
  match ← r.schema.association? f.model field with
  | some a =>
    if a.cardinality == .many then
      return {
        related := a.relatedModel
        records := ← (f.record.field field).membersOrNone
        submitted := .ofOption (f.submitted? (FieldScope.rowsKey field)) }
    else throw (.notHasMany field f.model)
  | none => throw (.notHasMany field f.model)

def rowFrame (rel : Relation) (f : Frame) (field : String) (index : Nat) (record : Value) :
    Frame where
  model := rel.related
  record := record
  scope := f.scope.nested field (toString index)
  values := Rows.values rel.submitted index
  bindErrors := false

def templateFrame (rel : Relation) (f : Frame) (field : String) : Frame where
  model := rel.related
  record := .none
  scope := f.scope.nested field (Rows.sentinel field)
  values := none
  bindErrors := false

/-- A row around its nodes. The call to the builder comes before those of the row. -/
def row (r : Renderer) (row : Frame) (field : String) (body : Output) : Except Fault Output := do
  let html ← r.drawing.theme.fill "form/has_many_fieldset.html" [
    ("fieldset_id", .value (.text row.scope.idPrefix)),
    ("body", .fragment body.html),
    ("identity", .value (r.schema.identity row.record)),
    ("identity_name", .value (.text (row.scope.elementName "id"))),
    ("destroy_name", .value (.text (row.scope.elementName "_destroy")))]
  let drawn := if row.record.isNone then body.silent else body
  return (drawn.around html).after (.build field row.record)

def templateRow (r : Renderer) (row : Frame) (field : String) (body : Output) :
    Except Fault Output := do
  let html ← r.drawing.theme.fill "form/has_many_fieldset.html" [
    ("fieldset_id", .value (.text row.scope.idPrefix)),
    ("body", .fragment body.html),
    ("identity", .value .none)]
  return (body.silent.around html).after (.build field .none)

def hasMany (r : Renderer) (f : Frame) (field : String) (rows : List Output)
    (template : Output) : Except Fault Output := do
  let sentinel := Rows.sentinel field
  let templateId := (f.scope.nested field sentinel).idPrefix ++ "_template"
  let listed := Output.lines rows
  let html ← r.drawing.theme.fill "form/has_many.html" [
    ("relation", .value (.text field)),
    ("human_label", .value (.text (singularize field))),
    ("rows", .fragment listed.html),
    ("template", .fragment template.html),
    ("template_id", .value (.text templateId)),
    ("onclick", .value (.text (Rows.insertScript templateId sentinel)))]
  return ⟨html, listed.listeners ++ template.listeners, listed.calls ++ template.calls⟩

/-- Draws records one after the other, numbered from `index`. -/
def drawRows (draw : Nat → Value → Except Fault Output) :
    Nat → List Value → Except Fault (List Output)
  | _, [] => .ok []
  | index, record :: rest => do
    let first ← draw index record
    return first :: (← drawRows draw (index + 1) rest)

mutual

def node (r : Renderer) (draw : Drawer) (c : Context) (f : Frame) : Node → Except Fault Output
  | .input field o => draw f field o
  | .fieldset label body o => do
    let parts ← nodes r draw c f body
    r.fieldset c label o (.lines parts)
  | .hasMany field rows _ => do
    let rel ← r.relation f field
    let drawn ← drawRows (fun index record => do
      let row := rowFrame rel f field index record
      r.row row field (← rowForm r draw c row (rows record))) 0 rel.records
    let blank := templateFrame rel f field
    let template ← r.templateRow blank field (← rowForm r draw c blank (rows .none))
    r.hasMany f field drawn template
  | .actions body => do
    let parts ← nodes r draw c f body
    r.actions (.lines parts)
  | .content content isMarkup =>
    .ok (.ofHtml [.piece (if isMarkup then .markup content else .text content)])
  | .script script => r.script script

/-- Nodes in a row, each rendered on its own. -/
def nodes (r : Renderer) (draw : Drawer) (c : Context) (f : Frame) :
    List Node → Except Fault (List Output)
  | [] => .ok []
  | n :: rest => do
    let first ← node r draw c f n
    return first :: (← nodes r draw c f rest)

def rowForm (r : Renderer) (draw : Drawer) (c : Context) (f : Frame) :
    RowForm → Except Fault Output
  | .nodes body => do return .lines (← nodes r draw c f body)
  | .fault fault => .error (fault.ofForm f.model)

end

structure Rendered where
  html : List Html
  script : String
  invocations : List Invocation

def Rendered.calls (r : Rendered) : List Call := r.invocations.map Invocation.logged

def Rendered.markup (r : Rendered) : String := Html.writeAll r.html

/-- A form for a context: its markup, and the script of its listeners. -/
def formBy (r : Renderer) (draw : Drawer) (tree : Tree) (c : Context) : Except Fault Rendered := do
  let body := Output.lines (← r.nodes draw c (.ofContext c) tree.nodes)
  let html ← r.drawing.theme.fill "form/form.html" [
    ("body", .fragment body.html),
    ("csrf_token", .value (.ofText? c.csrfToken)),
    ("method_put", .value (.bool (c.mode == .edit)))]
  return ⟨html, readyScript body.listeners, body.calls⟩

def form (r : Renderer) (tree : Tree) (c : Context) : Except Fault Rendered :=
  r.formBy (r.input c) tree c

end Renderer

end Formwright.Render
