import Formwright.Form.Compile
import Formwright.Schema
import Formwright.Text.Replace

/-!
# Default forms

The form of a model that has none of its own: one group without a label, with an input for every
field that is not excluded. A field that stores a belongs-to association is replaced by the
association, chosen from the records that a loader gives; without a loader it is left out.
-/

namespace Formwright.Form

/-- The records of a model. -/
abbrev Loader := String → Value

/-- The name of the association that a field named like a foreign key would store. -/
def keyedName? (field : String) : Option String :=
  if Text.endsWith field.toList ['_', 'i', 'd'] then
    some (String.ofList (Text.dropEnd 3 field.toList))
  else none

def storedAssociation? (m : Model) (field : String) : Option Association :=
  match keyedName? field >>= m.association? with
  | some a => if a.cardinality == .one && a.ownerKey == field then some a else none
  | none => none

def defaultInput? (m : Model) (loader : Option Loader) (field : String) : Option Declaration :=
  match storedAssociation? m field, loader with
  | none, _ => some (.input field [])
  | some a, some load =>
    some (.input a.name
      [("collection", .computed (.related a.relatedModel (load a.relatedModel)))])
  | some _, none => none

def defaultInputs (m : Model) (loader : Option Loader) (excluded : List String) :
    List Declaration :=
  (m.fields.map (·.name)).filterMap fun field =>
    if excluded.contains field then none else defaultInput? m loader field

def Tree.default (schema : Schema) (model : String) (loader : Option Loader)
    (excluded : List String) : Except Fault Tree := do
  let m ← schema.model model
  Tree.ofDescription
    (some (.declarations [.group "" (some (defaultInputs m loader excluded)) []])) model

end Formwright.Form
