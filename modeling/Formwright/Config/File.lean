import Formwright.Config
import Formwright.Toml.Document
import Formwright.Value.Entries

/-!
# Configuration files

A configuration is the table `forms` of a file, or else the table `admin_forms` of its table `tool`.
A relative templates directory is seen from the directory of the file. A file that is not there
configures nothing.

## Contents

* `Config.ofToml`: the configuration in the text of a file.
* `Config.load`: the configuration of a file that may be missing.
-/

namespace Formwright.Config

def entriesIn (file : List (Value × Value)) : Except Fault (List (Value × Value)) :=
  match Value.named? file "forms" with
  | some forms => Value.entriesOf forms
  | none =>
    match Value.named? file "tool" with
    | some (.table tools) =>
      match Value.named? tools "admin_forms" with
      | some forms => Value.entriesOf forms
      | none => .ok []
    | _ => .ok []

/-- The templates directory as it is seen from where the file is. -/
def placeTemplates (path : Path) (entries : List (Value × Value)) :
    Except Fault (List (Value × Value)) :=
  match Value.named? entries "templates_dir" with
  | none => .ok entries
  | some v =>
    if !v.isTrue then .ok entries
    else
      match v.string? with
      | some s => .ok (Value.put (.text "templates_dir")
          (.text (path.parent.join (Path.ofText s)).text) entries)
      | none => .error (.misuse .kind)

def ofToml (path : Path) (source : String) : Except Fault Config := do
  match Toml.parse source with
  | .error .malformed => throw (.config path.text .invalidToml)
  | .error .longNumeral => throw (.misuse .length)
  | .ok file =>
    let entries ← Value.byName (← placeTemplates path (← entriesIn file))
    ((check entries).orRefuse "FormsConfig").mapError fun r => .config path.text (.refused r)

/-- The configuration of a file; without the file, the standard one. -/
def load (path : Path) (source : Option String) : Except Fault Config :=
  match source with
  | some source => ofToml path source
  | none => .ok standard

end Formwright.Config
