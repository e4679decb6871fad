import Formwright.Check.Rule
import Formwright.Value.Entries

/-!
# Schemas

What is known about models: the scalar fields of a model with their declared types, and its
associations with other models. A belongs-to association (`one`) is stored in a field of the owning
model, its owner key; a has-many association (`many`) is not stored with the owner.

## Contents

* `ScalarType`: the types that controls are chosen by.
* `Association`, `FieldSpec`, `Model`, `Schema`: the data, each with its check.
* `Schema.fieldType`, `Schema.association?`, `Schema.storageKey`: looking fields up.
* `Schema.modelAt`, `Schema.fieldTypeAt`, …: the same under names that are any values.
-/

namespace Formwright

open Rule Text

/-- The types that controls are chosen by. -/
inductive ScalarType where
  | string
  | text
  | integer
  | float
  | decimal
  | boolean
  | date
  | time
  | datetime
  | file
  | id
  | association
  deriving DecidableEq, Repr

namespace ScalarType

def names : List (String × ScalarType) := [
  ("string", .string), ("text", .text), ("integer", .integer), ("float", .float),
  ("decimal", .decimal), ("boolean", .boolean), ("date", .date), ("time", .time),
  ("datetime", .datetime), ("file", .file), ("id", .id), ("association", .association)]

def name (t : ScalarType) : String := ((names.find? (·.2 == t)).map (·.1)).getD ""

/-- The type a declared type name stands for. A name in any case is that type; of the other names
those that end in `File` are files and the rest are plain strings. -/
def ofDeclared (declared : String) : ScalarType :=
  match names.lookup (lower declared) with
  | some t => t
  | none => if endsWith declared.toList ['F', 'i', 'l', 'e'] then .file else .string

end ScalarType

/-- How many records of the other model an association has. -/
inductive Cardinality where
  | one
  | many
  deriving DecidableEq, Repr

def Cardinality.names : List (String × Cardinality) := [("one", .one), ("many", .many)]

def Cardinality.name : Cardinality → String
  | .one => "one"
  | .many => "many"

structure Association where
  name : String
  cardinality : Cardinality
  /-- The field of the owning model that stores a belongs-to association. -/
  ownerKey : String
  relatedModel : String
  through : Option (List String)
  deriving DecidableEq, Repr

structure FieldSpec where
  name : String
  type : String
  deriving DecidableEq, Repr

structure Model where
  name : String
  fields : List FieldSpec
  associations : List Association
  identityField : String
  deriving DecidableEq, Repr

/-- The models and the field that identifies records. -/
structure Schema where
  models : List Model
  identityField : String
  deriving DecidableEq, Repr

/-! ## Checks -/

def Association.rule : Rule Association := record fun entries =>
  Association.mk <$> required entries "name" text
    <*> required entries "cardinality" (oneOf Cardinality.names)
    <*> required entries "owner_key" text
    <*> required entries "related_model" text
    <*> withDefault entries "through" (optional (tupleOf text)) none

/-- The check of a declared type: the name of a type or any other text. -/
def FieldSpec.typeRule : Rule String := fun v =>
  match v.string? with
  | some s => .good s
  | none => .bad [⟨["str-enum[ScalarType]"], .notMember⟩, ⟨["str"], .notText⟩]

def FieldSpec.rule : Rule FieldSpec := record fun entries =>
  FieldSpec.mk <$> required entries "name" text
    <*> withDefault entries "type" typeRule "string"

def Model.check (entries : List (String × Value)) : Checked Model :=
  Model.mk <$> required entries "name" text
    <*> withDefault entries "fields" (listOf FieldSpec.rule) []
    <*> withDefault entries "associations" (listOf Association.rule) []
    <*> withDefault entries "identity_field" text "id"

def Model.rule : Rule Model := record Model.check

/-! ## Looking up -/

def Model.field? (m : Model) (name : String) : Option FieldSpec :=
  m.fields.find? (·.name == name)

def Model.association? (m : Model) (name : String) : Option Association :=
  m.associations.find? (·.name == name)

/-- The declared type of a field; an association has a type of its own. -/
def Model.fieldType (m : Model) (name : String) : Except Fault String :=
  match m.field? name with
  | some f => .ok f.type
  | none =>
    if (m.association? name).isSome then .ok ScalarType.association.name
    else .error (.unknownField name m.name)

namespace Schema

/-- The model of a name; of several with one name the last counts. -/
def model (s : Schema) (name : String) : Except Fault Model :=
  match s.models.reverse.find? (·.name == name) with
  | some m => .ok m
  | none => .error (.unknownModel name)

def fieldType (s : Schema) (model field : String) : Except Fault String := do
  (← s.model model).fieldType field

def association? (s : Schema) (model field : String) : Except Fault (Option Association) := do
  return (← s.model model).association? field

def fieldNames (s : Schema) (model : String) : Except Fault (List String) := do
  return (← s.model model).fields.map (·.name)

def identity (s : Schema) (record : Value) : Value := record.field s.identityField

/-- The key a field is stored under given its association: the owner key of a belongs-to
association, the field's own name otherwise. -/
def keyOf (assoc : Option Association) (field : String) : String :=
  match assoc with
  | some a => if a.cardinality == .one then a.ownerKey else field
  | none => field

def storageKey (s : Schema) (model field : String) : Except Fault String := do
  return keyOf (← s.association? model field) field

/-! ## Looking up under any value -/

/-- The model under a name that may be a key. Only texts name models. -/
def modelAt (s : Schema) (name : Value) : Except Fault Model :=
  match name.string? with
  | some n => s.model n
  | none => .error (if name.isKey then .unknownModel name.toText else .misuse .kind)

def fieldTypeAt (s : Schema) (model field : Value) : Except Fault String := do
  let m ← s.modelAt model
  match field.string? with
  | some name => m.fieldType name
  | none => throw (.unknownField field.toText m.name)

def associationAt (s : Schema) (model field : Value) : Except Fault (Option Association) := do
  let m ← s.modelAt model
  return field.string? >>= m.association?

/-- The key that a name is stored under; what names no field is its own key. -/
def storageKeyAt (s : Schema) (model field : Value) : Except Fault Value := do
  let m ← s.modelAt model
  return match field.string? with
    | some name => .text (keyOf (m.association? name) name)
    | none => field

end Schema

end Formwright
