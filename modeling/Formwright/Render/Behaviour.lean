import Formwright.Form.Options
import Formwright.Value.Inflected

/-!
# Behaviours

What happens when controls change. A behaviour is a script of its own, or a reload: the other
control is shown and its choices are fetched again. The listeners of a render are put together into
one script that runs when the page is ready.

## Contents

* `Change.live?`: the script of a behaviour that does something.
* `ChangeDirective.scriptAt?`: the script of a reload between names that are any values.
* `Listener`, `readyScript`: behaviours bound to controls, and the script of them all.
-/

namespace Formwright

open Text Words

def trimRoute (route : String) : String :=
  String.ofList (route.toList.reverse.dropWhile (· == '/')).reverse

/-- The script that reads a further parameter, and its part of the query. -/
def ExtraParam.script (model param source : String) : String × String :=
  ("var extra = $('#" ++ model ++ "_" ++ source ++ "').val();\n", "&" ++ param ++ "='+extra+'")

/-- The script and the query part of a further parameter; both are empty without one. -/
def ExtraParam.scriptOf? (model : String) : Option ExtraParam → String × String
  | some (.field name) => script model name name
  | some (.named param source) => script model param source
  | none => ("", "")

/-- The script that reloads a field when one with this plural changes. -/
def reloadScript (update : String) (params : Option ExtraParam) (model baseRoute plural : String) :
    String :=
  let (extra, query) := ExtraParam.scriptOf? model params
  "$('#" ++ model ++ "_" ++ update ++ "_input').show();\n" ++ extra
    ++ "$.get('" ++ trimRoute baseRoute ++ "/" ++ plural ++ "/'+$(this).val()+'/"
    ++ pluralize update ++ "/?field_name=" ++ update ++ query ++ "&format=js');\n"

def ChangeDirective.target? (d : ChangeDirective) : Option String :=
  match d.update with
  | none => none
  | some update => if update == "" then none else some update

def ChangeDirective.script? (d : ChangeDirective) (model field baseRoute : String) :
    Option String :=
  d.target?.map fun update => reloadScript update d.params model baseRoute (pluralize field)

/-- The script of a reload where model, field and route are any values. A route has to be a text,
and a field has to have a plural. -/
def ChangeDirective.scriptAt? (d : ChangeDirective) (model field baseRoute : Value) :
    Except Fault (Option String) :=
  match d.target?, baseRoute.string? with
  | none, _ => .ok none
  | some _, none => .error (.misuse .attribute)
  | some update, some route => do
    return some (reloadScript update d.params model.toText route (← field.plural).toText)

/-- A script, unless it is empty and does nothing. -/
def liveScript? (s : String) : Option String := if s == "" then none else some s

def Change.live? (change : Change) (model field baseRoute : String) : Option String :=
  match change with
  | .script s => liveScript? s
  | .reload d => d.script? model field baseRoute

/-- A behaviour bound to a control. -/
structure Listener where
  controlId : String
  script : String
  deriving DecidableEq, Repr

def Listener.binding (l : Listener) : String :=
  "$(document).on('change','#" ++ l.controlId ++ "', function() \x7b\n  " ++ l.script
    ++ "\n\x7d);\n"

/-- One script that binds all listeners when the page is ready; empty without listeners. -/
def readyScript (listeners : List Listener) : String :=
  if listeners.isEmpty then ""
  else
    "$(function() \x7b\n" ++ String.join (listeners.map Listener.binding) ++ "\x7d);"

end Formwright
