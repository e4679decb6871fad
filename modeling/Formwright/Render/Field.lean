import Formwright.Errors
import Formwright.Render.Context
import Formwright.Render.Control
import Formwright.Render.Naming
import Formwright.Render.Output
import Formwright.Words.Label

/-!
# Fields in a form

An input of a form as it is drawn for one record: its value, errors and marks are gathered from the
record and the context, its control is chosen and drawn, and the control is put into an item.

## Contents

* `Resolver`: functions that give collections.
* `Renderer`, `Frame`: what all inputs share, and what those of one record share.
* `Renderer.describe`: what is shown of a field.
* `Renderer.association`: the control of a field with a collection.
* `Renderer.input`: the item of an input.
-/

namespace Formwright.Render

open Words

/-- A function that gives a collection for a context and the record of an input. -/
abbrev Resolver := Context → Value → Except Fault Value

namespace Resolver

def constant (v : Value) : Resolver := fun _ _ => .ok v

def field (name : String) : Resolver := fun _ record => .ok (record.field name)

def parameter (name : String) : Resolver := fun c _ => .ok (.ofOption (c.params.lookup name))

end Resolver

/-- What a form is rendered with. -/
structure Renderer where
  schema : Schema
  drawing : Drawing
  /-- The functions that came with the form, by name. -/
  functions : String → Resolver := fun _ => .constant .none

/-- The record whose inputs are rendered, and where they are named. -/
structure Frame where
  model : String
  record : Value
  scope : FieldScope
  /-- The values submitted for the record, if any were. -/
  values : Option (List (Value × Value))
  /-- Errors are shown. -/
  bindErrors : Bool

namespace Frame

def submitted? (f : Frame) (key : String) : Option Value :=
  f.values >>= fun entries => Value.named? entries key

/-- The submitted value of a key, or else the record's. -/
def value (f : Frame) (key : String) : Value := (f.submitted? key).getD (f.record.field key)

def ofContext (c : Context) : Frame where
  model := c.modelName
  record := c.record
  scope := .ofModel c.modelName
  values := some c.modelParams
  bindErrors := true

end Frame

/-- The label of a field: none for a hidden field or where none is wanted. -/
def labelOf (field : String) (o : FieldOptions) : Option String :=
  if o.type == some "hidden" then none
  else
    match o.label with
    | some .hidden => none
    | some (.text s) => some (if s == "" then humanize field else s)
    | none => some (humanize field)

/-- Whether a field is seen. One that is not displayed is seen only while editing, or when a value
was submitted for it. -/
def isVisible (o : FieldOptions) (c : Context) (f : Frame) (key : String) : Bool :=
  o.display || c.isEditing || (f.submitted? key).elim false Value.isTrue

/-- A submitted value that leaves its key unchosen. -/
def isUnchosen (v : Value) : Bool := v.isNone || v.isText "" || v.isText "false"

def chosenIds : Value → List Value
  | .table entries => (entries.filter fun e => !isUnchosen e.2).map (·.1)
  | .list items => items.filter fun v => !(v.isNone || v.isText "")
  | .tuple items => items.filter fun v => !(v.isNone || v.isText "")
  | v => if v.isTrue then [v] else []

namespace Renderer

def resolver (r : Renderer) : Source → Resolver
  | .function name => r.functions name
  | .related _ records => .constant records

/-- Calls the function of a computed collection: what it gives, and the call as it is logged. -/
def call (r : Renderer) (source : Source) (c : Context) (record : Value) :
    Except Fault (Value × Invocation) :=
  (r.resolver source c record).map fun given => (given, .resolve source c.modelName record)

/-- The items of a collection, and the calls they take. -/
def itemsOf (r : Renderer) (collection : Option Collection) (c : Context) (record : Value) :
    Except Fault (List Value × List Invocation) :=
  match collection with
  | none => .ok ([], [])
  | some (.literal items) => .ok (items, [])
  | some (.computed source) => do
    let (given, call) ← r.call source c record
    return (← given.membersOrNone, [call])

/-- The errors of a field; nothing when none are known or shown. -/
def errorsOf (r : Renderer) (c : Context) (f : Frame) (field : String) :
    Except Fault (Option (List Value)) :=
  if f.bindErrors then (r.schema.storageKey f.model field).map (Errors.select c.errors)
  else .ok none

def describe (r : Renderer) (c : Context) (f : Frame) (field key : String) (o : FieldOptions) :
    Except Fault Descriptor := do
  return {
    id := f.scope.elementId key
    name := f.scope.elementName key
    value := f.value key
    errors := ← r.errorsOf c f field
    required := c.required.contains key || c.required.contains field
    visible := isVisible o c f key
    label := labelOf field o }

/-- The key under which the identities of a has-many association are submitted. -/
def idsKey (field : String) : String := singularize field ++ "_ids"

/-- The identities that are chosen: those submitted, or else those of the related records. -/
def selectedIds (r : Renderer) (f : Frame) (field : String) : Except Fault (List Value) :=
  match f.submitted? (idsKey field) with
  | some submitted => .ok (chosenIds submitted)
  | none => (f.record.field field).membersOrNone.map fun related => related.map r.schema.identity

/-- A control with what is shown of its field. -/
structure Shown where
  descriptor : Descriptor
  html : List Html

def manyControl (r : Renderer) (c : Context) (f : Frame) (field : String) (o : FieldOptions)
    (items : List Value) : Except Fault Shown := do
  let desc ← r.describe c f field (idsKey field) o
  let listed := { desc with name := desc.name ++ "[]" }
  let selected ← r.selectedIds f field
  return ⟨listed, ← r.drawing.many listed items o r.schema.identity selected⟩

def singleControl (r : Renderer) (c : Context) (f : Frame) (field : String) (o : FieldOptions)
    (items : List Value) (key : String) : Except Fault Shown := do
  let desc ← r.describe c f field key o
  if isLiteralCollection items then return ⟨desc, ← r.drawing.literalSelect desc items o⟩
  else return ⟨desc, ← r.drawing.recordSelect desc items o r.schema.identity⟩

def isMany (assoc : Option Association) : Bool := assoc.elim false (·.cardinality == .many)

def association (r : Renderer) (c : Context) (f : Frame) (field : String) (o : FieldOptions) :
    Except Fault (Shown × List Invocation) := do
  let (items, calls) ← r.itemsOf o.collection c f.record
  let assoc ← r.schema.association? f.model field
  if isMany assoc then return (← r.manyControl c f field o items, calls)
  else return (← r.singleControl c f field o items (Schema.keyOf assoc field), calls)

def scalarControl (r : Renderer) (c : Context) (f : Frame) (field : String) (o : FieldOptions)
    (kind : ControlKind) : Except Fault Shown := do
  let desc ← r.describe c f field field o
  return ⟨desc, ← r.drawing.scalar kind desc o c.today⟩

def itemClass (kind : String) (desc : Descriptor) : String :=
  kind ++ " input " ++ (if desc.required then "required" else "optional")
    ++ (if desc.hasErrors then " error" else "")

/-- The listener of a control, if its field has a behaviour that does something. -/
def listenersOf (r : Renderer) (c : Context) (field : String) (o : FieldOptions) (id : String) :
    List Listener :=
  match o.change >>= fun change => change.live? c.modelName field r.drawing.config.baseRoute with
  | some script => [⟨id, script⟩]
  | none => []

def item (r : Renderer) (f : Frame) (field : String) (o : FieldOptions) (kind : String)
    (shown : Shown) : Except Fault (List Html) :=
  let desc := shown.descriptor
  r.drawing.theme.fill "form/item.html" [
    ("css_class", .value (.text (itemClass kind desc))),
    ("base_id", .value (.text (f.scope.elementId field))),
    ("control_id", .value (.text desc.id)),
    ("label", .value (.ofText? desc.label)),
    ("required", .value (.bool desc.required)),
    ("visible", .value (.bool desc.visible)),
    ("ajax", .value (.bool o.ajax)),
    ("body", .fragment shown.html)]

/-- The control of an input, the name of its kind, and the calls it takes. -/
def control (r : Renderer) (c : Context) (f : Frame) (field : String) (o : FieldOptions)
    (type : ScalarType) : Except Fault (Shown × String × List Invocation) := do
  if o.collection.isSome then
    let (shown, calls) ← r.association c f field o
    return (shown, "select", calls)
  else
    let kind := ControlKind.resolve type o false
    return (← r.scalarControl c f field o kind, kind.name, [])

/-- An input. Its field has to be known before anything is drawn. -/
def input (r : Renderer) (c : Context) (f : Frame) (field : String) (o : FieldOptions) :
    Except Fault Output := do
  let type := ScalarType.ofDeclared (← r.schema.fieldType f.model field)
  let (shown, kind, calls) ← r.control c f field o type
  let html ← r.item f field o kind shown
  return ⟨html, r.listenersOf c field o shown.descriptor.id, calls⟩

end Renderer

end Formwright.Render
