import Formwright.Check.Rule

/-!
# Names of controls

Every control has an id and a name made from the model, the relations and rows on the way to it,
and its field: `contact_email` and `contact[email]` at the top,
`contact_phones_attributes_0_number` and `contact[phones_attributes][0][number]` in a row.
-/

namespace Formwright

/-- What the ids and names of one record's controls start with. -/
structure FieldScope where
  idPrefix : String
  namePrefix : String
  deriving DecidableEq, Repr

namespace FieldScope

def ofModel (model : String) : FieldScope := ⟨model, model⟩

/-- The scope of a model that is any value but has to be a text. -/
def ofValue (model : Value) : Checked FieldScope :=
  FieldScope.mk <$> (Rule.text model).under "id_prefix" <*> (Rule.text model).under "name_prefix"

/-- The key under which the rows of a relation are submitted. -/
def rowsKey (relation : String) : String := relation ++ "_attributes"

def nested (s : FieldScope) (relation index : String) : FieldScope where
  idPrefix := s.idPrefix ++ "_" ++ rowsKey relation ++ "_" ++ index
  namePrefix := s.namePrefix ++ "[" ++ rowsKey relation ++ "][" ++ index ++ "]"

def elementId (s : FieldScope) (field : String) : String := s.idPrefix ++ "_" ++ field

def elementName (s : FieldScope) (field : String) : String := s.namePrefix ++ "[" ++ field ++ "]"

end FieldScope

end Formwright
