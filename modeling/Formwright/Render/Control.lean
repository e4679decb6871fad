import Formwright.Config
import Formwright.Form.Options
import Formwright.Markup.Theme
import Formwright.Schema
import Formwright.Temporal.Selects

/-!
# Controls

One control for one field: which kind it is, how its value is shown, and its markup, followed by the
sentences of its errors. Scalar fields are drawn by kind; fields with a collection are drawn as
selects, check boxes or radio buttons.

## Contents

* `ControlKind`, `ControlKind.resolve`: the kinds, and which one a field has.
* `Descriptor`: what is shown of a field.
* `displayText`, `fileName`, `itemLabel`, `literalOption`: values as they are shown.
* `Drawing.scalar`, `Drawing.literalSelect`, `Drawing.recordSelect`, `Drawing.many`: the markup.
-/

namespace Formwright

open Rule Template Text

inductive ControlKind where
  | select
  | collection
  | boolean
  | textarea
  | date
  | time
  | datetime
  | file
  | text
  deriving DecidableEq, Repr

namespace ControlKind

def names : List (String × ControlKind) := [
  ("select", .select), ("collection", .collection), ("boolean", .boolean),
  ("textarea", .textarea), ("date", .date), ("time", .time), ("datetime", .datetime),
  ("file", .file), ("text", .text)]

def name (k : ControlKind) : String := ((names.find? (·.2 == k)).map (·.1)).getD ""

def ofScalar : ScalarType → ControlKind
  | .boolean => .boolean
  | .text => .textarea
  | .date => .date
  | .time => .time
  | .datetime => .datetime
  | .file => .file
  | _ => .text

/-- The `type` options that choose a kind; any other is the type of a text input. -/
def overrides : List (String × ControlKind) := [
  ("textarea", .textarea), ("boolean", .boolean), ("checkbox", .boolean), ("date", .date),
  ("time", .time), ("datetime", .datetime), ("file", .file)]

/-- The kind of a field: a collection decides first, then the `type` option, then the type. -/
def resolve (type : ScalarType) (options : FieldOptions) (hasCollection : Bool) : ControlKind :=
  if hasCollection then .select
  else ((options.type >>= fun t => overrides.lookup t)).getD (ofScalar type)

def temporal? : ControlKind → Option Temporal.Kind
  | .date => some .date
  | .time => some .time
  | .datetime => some .datetime
  | _ => none

end ControlKind

/-- What is shown of a field. -/
structure Descriptor where
  id : String
  name : String
  value : Value
  /-- Nothing when no errors are known at all. -/
  errors : Option (List Value)
  required : Bool
  visible : Bool
  label : Option String

def Descriptor.check (entries : List (String × Value)) : Checked Descriptor :=
  Descriptor.mk <$> Rule.required entries "id" text
    <*> Rule.required entries "name" text
    <*> withDefault entries "value" any .none
    <*> withDefault entries "errors" (optional (listOf any)) none
    <*> withDefault entries "required" truth false
    <*> withDefault entries "visible" truth true
    <*> withDefault entries "label" (optional text) none

def Descriptor.hasErrors (d : Descriptor) : Bool := d.errors.elim false (!·.isEmpty)

/-! ## Values as they are shown -/

def checkedWords : List String := ["true", "1", "on", "checked", "yes"]

def isChecked (v : Value) : Bool :=
  match v.string? with
  | some s => checkedWords.contains (lower s)
  | none => v.isTrue

/-- The text of a value in an input; nothing has none. -/
def displayText : Value → Option String
  | .none => none
  | .datetime d t => some (d.iso ++ "T" ++ t.iso)
  | v => some v.toText

/-- The name of a stored file: a text, or the `filename` of a record. -/
def fileName (v : Value) : Value :=
  match v with
  | .none => .text ""
  | .text s => .text s
  | .markup s => .markup s
  | record =>
    let name := (record.field? "filename").getD (.text "")
    .text (if name.isTrue then name.toText else "")

/-- The texts of some values with spaces between; nothing has none. -/
def spacedText (parts : List Value) : String :=
  joinWith " " ((parts.filter (!·.isNone)).map Value.toText)

/-- The text of a member of a collection: its fields, or its name. -/
def itemLabel (item : Value) (fields : Option (List String)) : String :=
  let names := match fields with
    | none | some [] => ["name"]
    | some names => names
  spacedText (names.map item.field)

/-- The text of a member of a collection where the names of fields are any values. -/
def itemLabelAt (item fields : Value) : Except Fault String := do
  let names ← if fields.isTrue then fields.members else pure [.text "name"]
  return spacedText (← names.mapM fun name => item.fieldAt name .none)

/-- A bare value or a pair of a value and a label. -/
def isLiteralItem : Value → Bool
  | .text _ | .markup _ | .int _ | .float _ | .decimal _ | .bool _ => true
  | .tuple items => items.length == 2
  | .list items => items.length == 2
  | _ => false

/-- All items are bare values or pairs, and there are some. -/
def isLiteralCollection (items : List Value) : Bool :=
  !items.isEmpty && items.all isLiteralItem

def literalOption (item : Value) : Except Fault (String × String) :=
  match members? item with
  | some [value, label] => .ok (value.toText, label.toText)
  | some _ => .error (.misuse .length)
  | none => .ok (item.toText, item.toText)

structure SelectOption where
  value : String
  label : String
  selected : Bool
  deriving DecidableEq, Repr

def SelectOption.toValue (o : SelectOption) : Value :=
  .object [("label", .text o.label), ("value", .text o.value), ("selected", .bool o.selected)]

/-! ## Markup -/

/-- What controls are drawn with. -/
structure Drawing where
  theme : Theme
  config : Config

/-- Attributes with a value each, later ones taking the place of earlier ones of the same name. -/
def overlay (attrs : List (String × Value)) (more : List (String × Value)) :
    List (Value × Value) :=
  Value.tableOf ((attrs ++ more).map fun a => (.text a.1, a.2))

def controlClass : String × Value := ("class", .text "form-control")

namespace Drawing

def fill (d : Drawing) (template : String) (values : List (String × Value)) :
    Except Fault (List Html) :=
  d.theme.fill template (values.map fun v => (v.1, .value v.2))

def errors (d : Drawing) : Option (List Value) → Except Fault (List Html)
  | none | some [] => .ok []
  | some errors => d.fill "controls/errors.html" [("errors", .list errors)]

def checkbox (d : Drawing) (desc : Descriptor) (o : FieldOptions) : Except Fault (List Html) :=
  d.fill "controls/checkbox.html" [("attrs", .table (overlay [
    ("type", .text "checkbox"),
    ("id", .text desc.id),
    ("name", .text desc.name),
    ("value", .text "true"),
    ("checked", if isChecked desc.value then .text "checked" else .none)] o.htmlOptions))]

def textarea (d : Drawing) (desc : Descriptor) (o : FieldOptions) : Except Fault (List Html) :=
  d.fill "controls/textarea.html" [
    ("attrs", .table (overlay [
      ("id", .text desc.id),
      ("name", .text desc.name),
      ("placeholder", .ofText? o.prompt)] (o.htmlOptions ++ [controlClass]))),
    ("value", .ofText? (displayText desc.value))]

def file (d : Drawing) (desc : Descriptor) (o : FieldOptions) : Except Fault (List Html) :=
  d.fill "controls/input.html" [("attrs", .table (overlay [
    ("type", .text "file"),
    ("id", .text desc.id),
    ("name", .text desc.name),
    ("value", fileName desc.value)] (o.htmlOptions ++ [controlClass])))]

/-- The type of a text input: a `type` option that is not a kind of control. -/
def inputType (o : FieldOptions) : String :=
  match o.type with
  | some t => if t == "" || (ControlKind.overrides.lookup t).isSome then "text" else t
  | none => "text"

def input (d : Drawing) (desc : Descriptor) (o : FieldOptions) : Except Fault (List Html) := do
  let maxlength ← writtenNumeral d.config.textMaxlength
  d.fill "controls/input.html" [("attrs", .table (overlay [
    ("type", .text (inputType o)),
    ("id", .text desc.id),
    ("name", .text desc.name),
    ("value", .ofText? (displayText desc.value)),
    ("maxlength", .text maxlength),
    ("placeholder", .ofText? o.prompt)] (o.htmlOptions ++ [controlClass])))]

def choiceValue (c : Temporal.Choice) : Value :=
  SelectOption.toValue ⟨c.value, c.label, c.selected⟩

def selectValue (s : Temporal.Select) : Value :=
  .object [
    ("unit", .text s.unit.name),
    ("id", .text s.id),
    ("name", .text s.name),
    ("options", .list (s.choices.map choiceValue)),
    ("separator", .ofText? s.separator)]

def temporal (d : Drawing) (kind : Temporal.Kind) (desc : Descriptor) (o : FieldOptions)
    (today : Date) : Except Fault (List Html) := do
  let selects ← kind.selects desc.value {
    id := desc.id
    name := desc.name
    options := o.options.map fun e => (.text e.1, e.2)
    today := today
    yearSpan := d.config.yearSpan }
  d.fill "controls/datetime.html" [("controls", .list (selects.map selectValue))]

/-- A scalar control without its errors. -/
def bare (d : Drawing) (kind : ControlKind) (desc : Descriptor) (o : FieldOptions)
    (today : Date) : Except Fault (List Html) :=
  match kind with
  | .boolean => d.checkbox desc o
  | .textarea => d.textarea desc o
  | .date => d.temporal .date desc o today
  | .time => d.temporal .time desc o today
  | .datetime => d.temporal .datetime desc o today
  | .file => d.file desc o
  | .select | .collection | .text => d.input desc o

def withErrors (d : Drawing) (desc : Descriptor) (body : Except Fault (List Html)) :
    Except Fault (List Html) := do
  return (← body) ++ (← d.errors desc.errors)

def scalar (d : Drawing) (kind : ControlKind) (desc : Descriptor) (o : FieldOptions)
    (today : Date) : Except Fault (List Html) :=
  d.withErrors desc (d.bare kind desc o today)

def select (d : Drawing) (desc : Descriptor) (choices : List SelectOption) (o : FieldOptions) :
    Except Fault (List Html) :=
  d.withErrors desc (d.fill "controls/select.html" [
    ("attrs", .table (overlay [("id", .text desc.id), ("name", .text desc.name)]
      (o.htmlOptions ++ [controlClass]))),
    ("options", .list (choices.map SelectOption.toValue)),
    ("prompt", .ofText? o.prompt)])

/-- A choice, selected when its value is the text of the stored value. -/
def choiceFor (desc : Descriptor) (value label : String) : SelectOption :=
  ⟨value, label, displayText desc.value == some value⟩

def literalChoices (desc : Descriptor) (items : List Value) :
    Except Fault (List SelectOption) :=
  items.mapM fun item => do
    let (value, label) ← literalOption item
    return choiceFor desc value label

def literalSelect (d : Drawing) (desc : Descriptor) (items : List Value) (o : FieldOptions) :
    Except Fault (List Html) := do
  d.select desc (← literalChoices desc items) o

def recordChoices (desc : Descriptor) (items : List Value) (o : FieldOptions)
    (identity : Value → Value) : List SelectOption :=
  items.map fun item => choiceFor desc (identity item).toText (itemLabel item o.fields)

def recordSelect (d : Drawing) (desc : Descriptor) (items : List Value) (o : FieldOptions)
    (identity : Value → Value) : Except Fault (List Html) :=
  d.select desc (recordChoices desc items o identity) o

/-- Drops the mark of a list from a name. -/
def baseName (name : String) : String :=
  if endsWith name.toList ['[', ']'] then String.ofList (dropEnd 2 name.toList) else name

def memberText (literal : Bool) (o : FieldOptions) (identity : Value → Value) (item : Value) :
    Except Fault (String × String) :=
  if literal then literalOption item
  else .ok ((identity item).toText, itemLabel item o.fields)

/-- One of any number of choices as a template sees it. A check box is named for its value. -/
def memberValue (desc : Descriptor) (style : CollectionStyle) (selected : List String)
    (value label : String) : Value :=
  .object [
    ("id", .text (desc.id ++ "_" ++ value)),
    ("name", .text
      (if style == .checkBoxes then baseName desc.name ++ "[" ++ value ++ "]" else desc.name)),
    ("value", .text value),
    ("label", .text label),
    ("selected", .bool (selected.contains value))]

def many (d : Drawing) (desc : Descriptor) (items : List Value) (o : FieldOptions)
    (identity : Value → Value) (selected : List Value) : Except Fault (List Html) := do
  let style := o.style.getD .select
  let texts ← items.mapM (memberText (isLiteralCollection items) o identity)
  let chosen := selected.map Value.toText
  d.withErrors desc (d.fill "controls/collection.html" [
    ("id", .text desc.id),
    ("name", .text desc.name),
    ("style", .text style.name),
    ("options", .list (texts.map fun t => memberValue desc style chosen t.1 t.2))])

end Drawing

end Formwright
