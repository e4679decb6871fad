import Formwright.Check.Rule
import Formwright.Fault

/-!
# Options of fields

What a declaration may say about a field, its group or its rows beyond its name. Options are given
as named values and checked as a whole; a name that is not an option is refused.

## Contents

* `CollectionStyle`, `Collection`, `Label`, `ChangeDirective`, `Change`: the richer options.
* `FieldOptions`: all options with their defaults.
* `FieldOptions.check`: the check.
-/

namespace Formwright

open Rule

/-- How a choice of any number of members is presented. -/
inductive CollectionStyle where
  | select
  | checkBoxes
  | radio
  deriving DecidableEq, Repr

def CollectionStyle.names : List (String × CollectionStyle) :=
  [("select", .select), ("check_boxes", .checkBoxes), ("radio", .radio)]

def CollectionStyle.name : CollectionStyle → String
  | .select => "select"
  | .checkBoxes => "check_boxes"
  | .radio => "radio"

/-- What a field is chosen from: fixed items, or items worked out in every render. -/
inductive Collection where
  | literal (items : List Value)
  | computed (source : Source)

/-- A label in place of the field's own, or none at all. -/
inductive Label where
  | text (s : String)
  | hidden
  deriving DecidableEq, Repr

/-- A further parameter of a reload: a field sent under its own name or under another. -/
inductive ExtraParam where
  | field (name : String)
  | named (param field : String)
  deriving DecidableEq, Repr

/-- A reload of another field when this one changes. -/
structure ChangeDirective where
  update : Option String
  params : Option ExtraParam
  deriving DecidableEq, Repr

inductive Change where
  | script (s : String)
  | reload (directive : ChangeDirective)
  deriving DecidableEq, Repr

structure FieldOptions where
  type : Option String
  label : Option Label
  collection : Option Collection
  /-- The fields a member's text is made of. -/
  fields : Option (List String)
  prompt : Option String
  change : Option Change
  /-- The control is refreshed on its own. -/
  ajax : Bool
  display : Bool
  style : Option CollectionStyle
  /-- Options of the parts of a date or time. -/
  options : List (String × Value)
  /-- Further attributes of the control. -/
  htmlOptions : List (String × Value)

def FieldOptions.standard : FieldOptions where
  type := none
  label := none
  collection := none
  fields := none
  prompt := none
  change := none
  ajax := false
  display := true
  style := none
  options := []
  htmlOptions := []

/-! ## Checks -/

/-- A text, or for no label a value that equals false: zero in any form does. -/
def Label.rule : Rule Label := fun v =>
  match v.string? with
  | some s => .good (.text s)
  | none =>
    if v.same (.bool false) then .good .hidden
    else .bad [⟨["str"], .notText⟩, ⟨["literal[False]"], .notLiteral⟩]

def Collection.rule : Rule Collection
  | .list items => .good (.literal items)
  | .tuple items => .good (.literal items)
  | .computed source => .good (.computed source)
  | _ => .fail .rejected

def ExtraParam.rule : Rule ExtraParam := fun v =>
  match v.string? with
  | some s => .good (.field s)
  | none =>
    match pair text text v with
    | .good p => .good (.named p.1 p.2)
    | .bad issues => .bad
      (⟨["str"], .notText⟩ :: issues.map fun i => ⟨"tuple[str, str]" :: i.location, i.reason⟩)

def ChangeDirective.check (entries : List (String × Value)) : Checked ChangeDirective :=
  ChangeDirective.mk <$> withDefault entries "update" (optional text) none
    <*> withDefault entries "params" (optional ExtraParam.rule) none

def entryOf? (v : Value) : Option (Value × Value) :=
  match v.items? with
  | some [key, value] => some (key, value)
  | _ => none

/-- The entries of a table, given as one or as a list of pairs, if every key is a text. -/
def namedEntries? (v : Value) : Option (List (String × Value)) := do
  let entries ← match v with
    | .table entries => some entries
    | .list items => Value.tableOf <$> items.mapM entryOf?
    | _ => none
  entries.mapM fun e => e.1.string?.map (·, e.2)

def Change.rule : Rule Change := fun v =>
  match v with
  | .text s => .good (.script s)
  | .markup s => .good (.script s)
  | .table _ | .list _ =>
    match (namedEntries? v) >>= fun entries => (ChangeDirective.check entries).value? with
    | some directive => .good (.reload directive)
    | none => .fail .rejected
  | _ => .bad [⟨["str"], .notText⟩, ⟨["ChangeDirective"], .notModel⟩]

namespace FieldOptions

def styleName (entries : List (String × Value)) : String :=
  if (entries.lookup "as").isSome then "as" else "as_"

/-- Whether an option goes by this name; the style goes by only one of its two names. -/
def isOption (entries : List (String × Value)) (name : String) : Bool :=
  ["type", "label", "collection", "fields", "prompt", "change", "ajax", "display", "options",
    "html_opts"].contains name || name == styleName entries

def unknownNames (entries : List (String × Value)) : Checked Unit :=
  match entries.filter fun e => !isOption entries e.1 with
  | [] => .good ()
  | unknown => .bad (unknown.map fun e => ⟨[e.1], .unknownKey⟩)

def check (entries : List (String × Value)) : Checked FieldOptions :=
  (fun o _ => o) <$> (FieldOptions.mk
    <$> withDefault entries "type" (optional text) none
    <*> withDefault entries "label" (optional Label.rule) none
    <*> withDefault entries "collection" (optional Collection.rule) none
    <*> withDefault entries "fields" (optional (tupleOf text)) none
    <*> withDefault entries "prompt" (optional text) none
    <*> withDefault entries "change" (optional Change.rule) none
    <*> withDefault entries "ajax" truth false
    <*> withDefault entries "display" truth true
    <*> withDefault entries (styleName entries) (optional (oneOf CollectionStyle.names)) none
    <*> withDefault entries "options" (tableOf any) []
    <*> withDefault entries "html_opts" (tableOf any) [])
    <*> unknownNames entries

end FieldOptions

end Formwright
