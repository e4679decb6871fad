import Formwright.Config
import Formwright.Form.Default
import Formwright.Form.Items
import Formwright.Render.Form
import Formwright.Toml.Document

/-!
# Form files

A file with all that it takes to render one form: the models, the form as an item list, and the
record, parameters and errors to render it for. A file without items has the default form of its
model, whose associations are chosen from the records that the file lists.

## Contents

* `FormFile`: the data; `FormFile.ofToml`: a file read from its text.
* `FormFile.schema`, `FormFile.tree`, `FormFile.context`: what is rendered.
* `FormFile.render`: the rendered form.
-/

namespace Formwright

open Rule

/-- The contents of a form file. -/
structure FormFile where
  /-- The model that the form is for. -/
  resource : String
  declarations : Option (List Declaration)
  models : List Model
  record : List (String × Value)
  params : List (String × Value)
  errors : Option (List (String × List Value))
  required : List String
  mode : FormMode
  /-- The records that associations are chosen from, by model. -/
  collections : List (String × List Value)

namespace FormFile

/-! ## Reading -/

/-- An error of two members is a tuple, which a file has no other way to write. -/
def errorValue : Value → Value
  | .list [a, b] => .tuple [a, b]
  | v => v

/-- The errors of a key: a list of them, or a single one. -/
def errorsOfKey : Value → List Value
  | .list errors => errors.map errorValue
  | error => [errorValue error]

def errorsIn (file : List (String × Value)) :
    Except Fault (Option (List (String × List Value))) :=
  match file.lookup "errors" with
  | none => .ok none
  | some (.table entries) =>
    .ok (some ((textEntries entries).map fun e => (e.1, errorsOfKey e.2)))
  | some _ => .error (.misuse .attribute)

/-- The declarations of a form, if it has items. A refused declaration is a fault of the file. -/
def declarationsIn (path : Path) (form : List (String × Value)) :
    Except Fault (Option (List Declaration)) :=
  match form.lookup "items" with
  | none => .ok none
  | some items =>
    match Form.Items.load "form.items" items with
    | .ok declarations => .ok (some declarations)
    | .error (.refused r) => .error (.file path.text (.refused r))
    | .error fault => .error fault

def check (file form : List (String × Value)) (declarations : Option (List Declaration))
    (errors : Option (List (String × List Value))) : Checked FormFile :=
  FormFile.mk <$> Rule.required form "resource" text
    <*> pure declarations
    <*> withDefault file "models" (listOf Model.rule) []
    <*> withDefault file "record" (tableOf any) []
    <*> withDefault file "params" (tableOf any) []
    <*> pure errors
    <*> withDefault form "required" (listOf text) []
    <*> withDefault form "mode" (oneOf FormMode.names) .new
    <*> withDefault file "collections" (tableOf (listOf any)) []

def formIn (path : Path) (file : List (String × Value)) :
    Except Fault (List (String × Value)) :=
  match file.lookup "form" with
  | some (.table entries) =>
    let form := textEntries entries
    if (form.lookup "resource").isSome then .ok form else .error (.file path.text .noForm)
  | _ => .error (.file path.text .noForm)

def ofToml (path : Path) (source : String) : Except Fault FormFile := do
  match Toml.parse source with
  | .error .malformed => throw (.file path.text .invalidToml)
  | .error .longNumeral => throw (.misuse .length)
  | .ok entries =>
    let file := textEntries entries
    let form ← formIn path file
    let errors ← errorsIn file
    let declarations ← declarationsIn path form
    ((check file form declarations errors).orRefuse "FormFile").mapError fun r =>
      .file path.text (.refused r)

/-! ## What is rendered -/

def schema (f : FormFile) : Schema := ⟨f.models, "id"⟩

def related : FormFile → Form.Loader := fun f model =>
  .list ((f.collections.lookup model).getD [])

/-- The form as a tree: the items, or the default form without the excluded fields. -/
def tree (f : FormFile) (excluded : List String) : Except Fault Form.Tree :=
  match f.declarations with
  | some ds => Form.Tree.ofDescription (some (.declarations ds)) f.resource
  | none => Form.Tree.default f.schema f.resource (some f.related) excluded

def flatErrors (errors : List (String × List Value)) : List (String × Value) :=
  errors.flatMap fun e => e.2.map fun error => (e.1, error)

def context (f : FormFile) (today : Date) : Context where
  record := .table (f.record.map fun e => (.text e.1, e.2))
  modelName := f.resource
  params := f.params
  errors := f.errors.map flatErrors
  required := f.required
  today := today
  mode := f.mode
  csrfToken := none

def render (f : FormFile) (drawing : Drawing) (today : Date) :
    Except Fault Render.Renderer.Rendered := do
  let tree ← f.tree drawing.config.excludedFields
  Render.Renderer.form { schema := f.schema, drawing := drawing } tree (f.context today)

end FormFile

end Formwright
