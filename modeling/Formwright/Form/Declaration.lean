import Formwright.Check.Rule
import Formwright.Value.Entries
import Formwright.Value.Equality

/-!
# Form declarations

A form is written as an ordered list of declarations: fields, groups, rows of related records,
actions, content and one script. Declarations are made from dynamic values by checked constructors;
what is written in the place of a declaration but is none is kept as it is, for the compiler to
refuse.

## Contents

* `Declaration`, `Description`: the data.
* `RowBuilder`: functions that give the declarations of rows.
* `Declaration.ofInput`, `Declaration.ofGroup`, …: the checked constructors.
-/

namespace Formwright

open Rule

mutual

/-- One declaration of a form. -/
inductive Declaration where
  | input (field : String) (options : List (String × Value))
  /-- A group under a label; without a body when none was given. -/
  | group (label : String) (body : Option (List Declaration)) (options : List (String × Value))
  | collection (field : String) (options : List (String × Value))
  /-- Rows of related records, each with the declarations that the builder gives for it. -/
  | hasMany (field : String) (builder : Option (Value → Description))
      (options : List (String × Value))
  | actions (body : Option (List Declaration))
  | content (content : String) (isMarkup : Bool)
  | script (script : String)
  /-- A value that is no declaration. -/
  | unknown (v : Value)

/-- What is given in the place of declarations. -/
inductive Description where
  | declarations (ds : List Declaration)
  /-- A value of a kind that is no sequence of declarations. -/
  | other (kind : String)
  /-- Nothing, because the function that was to give it ended with a fault. -/
  | failed (fault : Fault)

end

/-- A value in the place of declarations: the members of a list or tuple are no declarations. -/
def Description.ofValue (v : Value) : Description :=
  match members? v with
  | some items => .declarations (items.map .unknown)
  | none => .other v.kind

/-- A function that gives the declarations of a row for its record, or for none. -/
abbrev RowBuilder := Value → Description

namespace RowBuilder

def always (rows : Description) : RowBuilder := fun _ => rows

/-- The first case for a value. -/
def firstCase (v : Value) (otherwise : Description) : List (Value × Description) → Description
  | [] => otherwise
  | (case, rows) :: rest =>
    match case.equals v with
    | .ok true => rows
    | .ok false => firstCase v otherwise rest
    | .error e => .failed e

/-- The first case whose value equals a field of the record. -/
def byField (field : String) (cases : List (Value × Description)) (otherwise : Description) :
    RowBuilder := fun record => firstCase (record.field field) otherwise cases

end RowBuilder

namespace Declaration

def kind : Declaration → String
  | .input _ _ => "input"
  | .group _ _ _ => "inputs"
  | .collection _ _ => "collection_inputs"
  | .hasMany _ _ _ => "has_many"
  | .actions _ => "actions"
  | .content _ _ => "content"
  | .script _ => "script"
  | .unknown v => v.kind

/-! ## Checked constructors -/

/-- Options by name. Keys have to be texts, and names that are taken cannot be options. -/
def namedOptions (taken : List String) (options : List (Value × Value)) :
    Except Fault (List (String × Value)) := do
  let named ← Value.byName options
  if named.any fun e => taken.contains e.1 then throw (.misuse .kind) else return named

def fieldName (record : String) (field : Value) : Except Fault String :=
  ((text field).under "field_name").orFault record

def ofInput (field : Value) (options : List (Value × Value)) : Except Fault Declaration := do
  let options ← namedOptions ["field_name"] options
  return .input (← fieldName "InputDecl" field) options

def ofGroup (label : Value) (body : Option (List Declaration)) (options : List (String × Value)) :
    Except Fault Declaration := do
  return .group (← ((text label).under "label").orFault "InputsDecl") body options

def ofCollection (field collection : Value) (options : List (Value × Value)) :
    Except Fault Declaration := do
  let options ← namedOptions ["field_name", "collection"] options
  return .collection (← fieldName "CollectionInputsDecl" field)
    (("collection", collection) :: options)

/-- Rows of related records; `builder` is nothing when none was given. -/
def ofHasMany (field : Value) (builder : Option RowBuilder) (options : List (Value × Value)) :
    Except Fault Declaration := do
  let options ← namedOptions ["field_name", "builder"] options
  return .hasMany (← fieldName "HasManyDecl" field) builder options

/-- Rows with a value in the place of a builder that cannot build anything. -/
def ofHasManyValue (field builder : Value) (options : List (Value × Value)) :
    Except Fault Declaration := do
  if builder.isNone then ofHasMany field none options
  else
    let options ← namedOptions ["field_name", "builder"] options
    let check : Checked (String × Unit) := Prod.mk <$> (text field).under "field_name"
      <*> (Checked.fail .notCallable).under "builder"
    return .hasMany (← check.orFault "HasManyDecl").1 none options

def ofContent (content : Value) (isMarkup : Bool) : Except Fault Declaration := do
  return .content (← ((text content).under "content").orFault "ContentDecl") isMarkup

def ofScript (script : Value) : Except Fault Declaration := do
  return .script (← ((text script).under "script").orFault "ScriptDecl")

/-- Members in the place of a body are no declarations. -/
def bodyOf (v : Value) : Except Fault (Option (List Declaration)) :=
  match v with
  | .none => .ok none
  | v => do return some ((← v.members).map .unknown)

/-- A group as it is usually written, with a label and a body. A label that is no text is taken for
the body. -/
def ofLabelled (label : Value) (body : Except Fault (Option (List Declaration)))
    (options : List (Value × Value)) : Except Fault Declaration := do
  let options ← namedOptions ["label", "body"] options
  match label.string? with
  | some _ => ofGroup label (← body) options
  | none => ofGroup (.text "") (← bodyOf label) options

/-- A group written without a label. Here too a text is taken for the label; the body is then looked
for among the options. -/
def ofBody (written : Value) (body : Except Fault (Option (List Declaration)))
    (options : List (Value × Value)) : Except Fault Declaration := do
  let named ← namedOptions ["label"] options
  let rest := named.filter (·.1 != "body")
  match written.string? with
  | some s => ofGroup (.text s) (← bodyOf (.ofOption (named.lookup "body"))) rest
  | none => ofGroup (.text "") (← body) rest

end Declaration

end Formwright
