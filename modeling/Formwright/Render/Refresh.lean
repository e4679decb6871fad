import Formwright.Render.Field
import Formwright.Text.ScriptLiteral

/-!
# Refreshing one control

A select or other choice can be drawn again on its own, from new items, in place of the one on the
page; the control may be in a row of a relation.

## Contents

* `NestedPath`: a row of a relation.
* `Renderer.refresh`, `Renderer.refreshFrom`: the control.
* `updateScript`: the script that puts it in place; `scriptText`: a value in a script.
-/

namespace Formwright.Render

open Rule

/-- A row of a relation; the index is kept as it is written. -/
structure NestedPath where
  relation : String
  index : String
  deriving DecidableEq, Repr

def NestedPath.indexRule : Rule String := fun v =>
  match v.string? with
  | some s => .good s
  | none =>
    match whole v with
    | .good n => .good (toString n)
    | .bad issues => .bad (issues.map (fun i => ⟨"int" :: i.location, i.reason⟩)
      ++ [⟨["str"], .notText⟩])

def NestedPath.check (entries : List (String × Value)) : Checked NestedPath :=
  NestedPath.mk <$> Rule.required entries "relation" text
    <*> Rule.required entries "index" indexRule

def submittedRow (c : Context) (path : NestedPath) : Option (List (Value × Value)) :=
  match Value.named? c.modelParams (FieldScope.rowsKey path.relation) with
  | some (.table rows) => Value.named? rows path.index >>= Value.table?
  | _ => none

namespace Renderer

/-- The frame of the record, or of a row without a record of its own. -/
def refreshFrame (r : Renderer) (c : Context) (nested : Option NestedPath) :
    Except Fault Frame := do
  match nested with
  | none => return .ofContext c
  | some path =>
    let assoc ← r.schema.association? c.modelName path.relation
    return {
      model := assoc.elim path.relation (·.relatedModel)
      record := .none
      scope := (FieldScope.ofModel c.modelName).nested path.relation path.index
      values := submittedRow c path
      bindErrors := false }

def refreshIn (r : Renderer) (c : Context) (f : Frame) (field : String) (items : List Value)
    (o : FieldOptions) : Except Fault (List Html) := do
  let (shown, _) ← r.association c f field { o with collection := some (.literal items) }
  return shown.html

/-- A control drawn again from items. -/
def refresh (r : Renderer) (c : Context) (field : String) (items : List Value)
    (nested : Option NestedPath) (o : FieldOptions) : Except Fault (List Html) := do
  r.refreshIn c (← r.refreshFrame c nested) field items o

def refreshFrom (r : Renderer) (c : Context) (field : String) (collection : Value)
    (nested : Option NestedPath) (o : FieldOptions) : Except Fault (List Html) := do
  let f ← r.refreshFrame c nested
  r.refreshIn c f field (← collection.members) o

end Renderer

/-- A value as it stands in a script literal. In markup quotes are spelled as markup spells them.
Dates and times have parts that can be replaced, but no characters. -/
def scriptText (v : Value) : Except Fault String :=
  match v with
  | .text s => .ok (Text.escapeScript s)
  | .markup s => .ok (Text.escapeScriptWith escapedChar s)
  | .date _ | .time _ | .datetime _ _ => .error (.misuse .kind)
  | v => .error (v.lacks "replace")

def updateScript (model field markup : String) : String :=
  "$('#" ++ model ++ "_" ++ field ++ "-update').html(\"" ++ Text.escapeScript markup ++ "\");"

end Formwright.Render
