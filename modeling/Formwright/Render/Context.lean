import Formwright.Check.Day
import Formwright.Value.Entries

/-!
# Render contexts

What a form is rendered for: the record, submitted parameters, errors and marks of one request.

## Contents

* `Context`: the data; `Context.check`: its check.
* `Context.modelParams`, `Context.isEditing`, `Context.fieldValue`: what was submitted.
* `Context.submittedAt`, `Context.fieldValueAt`: the same under keys that are any values.
-/

namespace Formwright

open Rule

inductive FormMode where
  | new
  | edit
  deriving DecidableEq, Repr

def FormMode.names : List (String × FormMode) := [("new", .new), ("edit", .edit)]

def FormMode.name : FormMode → String
  | .new => "new"
  | .edit => "edit"

/-- What a form is rendered for. -/
structure Context where
  record : Value
  modelName : String
  params : List (String × Value)
  /-- Keys and errors; nothing when no errors are known at all. -/
  errors : Option (List (String × Value))
  required : List String
  today : Date
  mode : FormMode
  csrfToken : Option String

namespace Context

/-! ## Checks -/

/-- The pairs of a table of errors: every error of a list is a pair of its own. -/
def flatErrors (entries : List (Value × Value)) : List Value :=
  entries.flatMap fun e =>
    let errors := match e.2 with
      | .list errors => errors
      | error => [error]
    errors.map fun error => .tuple [.text e.1.toText, error]

/-- Errors as pairs: a table is taken apart, and the members of a list become tuples. -/
def errorPairs : Value → Except Fault Value
  | .table entries => .ok (.tuple (flatErrors entries))
  | .list items => do
    let pairs ← items.mapM fun v =>
      match v.items? with
      | some members => .ok (.tuple members)
      | none => .error (.misuse .kind)
    return .tuple pairs
  | v => .ok v

/-- The check of a context whose errors are pairs already. -/
def checkFields (entries : List (String × Value)) (today : Date) : Checked Context :=
  Context.mk <$> withDefault entries "record" any .none
    <*> Rule.required entries "model_name" text
    <*> withDefault entries "params" (tableOf any) []
    <*> withDefault entries "errors" (optional (tupleOf (pair text any))) none
    <*> withDefault entries "required" (setOf text) []
    <*> withDefault entries "today" date today
    <*> withDefault entries "mode" (oneOf FormMode.names) .new
    <*> withDefault entries "csrf_token" (optional text) none

def check (entries : List (String × Value)) (today : Date) : Except Fault Context := do
  let entries ← entries.mapM fun e =>
    if e.1 == "errors" then (errorPairs e.2).map fun v => (e.1, v) else .ok e
  (checkFields entries today).orFault "RenderContext"

/-! ## What was submitted -/

/-- The parameters submitted for the model; none unless they are a table. -/
def modelParams (c : Context) : List (Value × Value) :=
  match c.params.lookup c.modelName with
  | some (.table entries) => entries
  | _ => []

/-- A record is being edited: its id is among the parameters. -/
def isEditing (c : Context) : Bool := (c.params.lookup "id").elim false Value.isTrue

def submitted (c : Context) (key : String) : Value :=
  Value.ofOption (Value.named? c.modelParams key)

/-- The submitted value of a field, or else the record's. -/
def fieldValue (c : Context) (field : String) : Value :=
  (Value.named? c.modelParams field).getD (c.record.field field)

/-- A value submitted for the model under a key, if it is one. -/
def submittedAt (c : Context) (key : Value) : Except Fault (Option Value) :=
  Value.lookup? c.modelParams key

def fieldValueAt (c : Context) (key : Value) : Except Fault Value := do
  match ← c.submittedAt key with
  | some v => return v
  | none => c.record.fieldAt key .none

end Context

end Formwright
