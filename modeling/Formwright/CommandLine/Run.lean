import Formwright.CommandLine.Arguments
import Formwright.Config.File
import Formwright.FileTree
import Formwright.FormFile

/-!
# Running commands

A command reads files, prints, and may write one file. `Files` says how files are reached, so that
the same commands run on a file tree and on a disk.

## Contents

* `Files`, `FileTree.access`: how files are reached.
* `Report`, `Outcome`: what a command ends with.
* `Command.run`: a command.
-/

namespace Formwright

/-! ## Files -/

/-- How files are reached. -/
structure Files (m : Type → Type) where
  entry : Path → m Entry
  /-- The templates below a directory by name, if there is such a directory. -/
  templates : Path → m (Option (List (String × String)))
  /-- Writes a text; gives what prevented it. -/
  write : Path → String → m (Option PathFault)

def FileTree.access : Files (StateM FileTree) where
  entry p := do return (← get).entry p
  templates p := do return (← get).below p
  write p text := do
    match (← get).write p text with
    | .ok t => set t; return none
    | .error fault => return some fault

/-! ## Outcomes -/

inductive Report where
  | usage
  | noFormFile (path : Path)
  | fault (fault : Fault)
  | unusable (path : Path) (fault : PathFault)

namespace Report

/-- What is printed about a failure. A fault that is not reported is an error of the data, and so
is a path that cannot be used; nothing is printed about them. -/
def text : Report → String
  | .usage =>
    "Usage: admin-forms render [-c CONFIG] [-o OUTPUT] FORM_FILE\n       admin-forms version\n"
  | .noFormFile path => "Form file not found: " ++ path.text ++ "\n"
  | .fault f => if f.isReported then "Error: " ++ f.message ++ "\n" else ""
  | .unusable _ _ => ""

def exitCode : Report → Nat
  | .usage => 2
  | _ => 1

end Report

structure Outcome where
  output : String
  report : Option Report

namespace Outcome

def printed (text : String) : Outcome := ⟨text, none⟩

def failed (report : Report) : Outcome := ⟨"", some report⟩

def errorText (o : Outcome) : String := o.report.elim "" Report.text

def exitCode (o : Outcome) : Nat := o.report.elim 0 Report.exitCode

end Outcome

/-! ## Commands -/

def versionText : String := "admin-forms 0.1.0"

/-- The text of a rendered form: its markup, and its script in an element after it. -/
def pageText (r : Render.Renderer.Rendered) : String :=
  if r.script == "" then r.markup
  else r.markup ++ "\n<script type=\"text/javascript\">\n" ++ r.script ++ "\n</script>"

namespace Command

variable {m : Type → Type} [Monad m]

def configAt (files : Files m) (path : Path) : m (Except Report Config) := do
  match ← files.entry path with
  | .missing => return .ok .standard
  | .directory => return .error (.unusable path .directory)
  | .file source => return (Config.ofToml path source).mapError .fault

def themeOf (files : Files m) (config : Config) : m Theme := do
  match config.templatesDir with
  | some dir => return ⟨← files.templates dir⟩
  | none => return .standard

/-- Prints a text, or writes it to a file and says so. -/
def deliver (files : Files m) (output : Option Path) (text : String) : m Outcome := do
  match output with
  | none => return .printed (text ++ "\n")
  | some path =>
    match ← files.write path (text ++ "\n") with
    | none => return .printed ("Wrote " ++ path.text ++ "\n")
    | some fault => return .failed (.unusable path fault)

/-- Renders a form file. The form file has to be there before anything else is looked at, and the
configuration comes before what the form file holds. -/
def renderForm (files : Files m) (today : Date) (request : RenderRequest) : m Outcome := do
  match ← files.entry request.formFile with
  | .missing | .directory => return .failed (.noFormFile request.formFile)
  | .file source =>
    match ← configAt files request.config with
    | .error report => return .failed report
    | .ok config =>
      let theme ← themeOf files config
      let rendered := do
        let form ← FormFile.ofToml request.formFile source
        form.render ⟨theme, config⟩ today
      match rendered with
      | .error fault => return .failed (.fault fault)
      | .ok r => deliver files request.output (pageText r)

def run (files : Files m) (today : Date) (words : List String) : m Outcome := do
  match Command.read? words with
  | none => return .failed .usage
  | some .version => return .printed (versionText ++ "\n")
  | some (.render request) => renderForm files today request

end Command

end Formwright
