import Formwright.Form.Declaration
import Formwright.Form.Tree
import Formwright.Text.Blank

/-!
# Compiling forms

Declarations become nodes one for one and in order. Scripts are taken out: only the top level may
have them, the last one wins, and it becomes the last node of the form. The first fault in order of
evaluation stops the compilation; it is reported with the way to it, from the form down.

## Contents

* `compileAll`: one level of declarations.
* `compileRow`: the bodies of rows.
* `Tree.ofDescription`, `Tree.ofDescriptionFor`: a whole form.
-/

namespace Formwright.Form

/-- One level of a form: its nodes in order, and its last script. -/
structure Level where
  nodes : List Node
  script : Option String

def checkName (path : List Step) (name : String) : Except FormFault Unit :=
  if Text.allBlank name then .error (.located path .blankName) else .ok ()

def checkOptions (path : List Step) (options : List (String × Value)) :
    Except FormFault FieldOptions :=
  ((FieldOptions.check options).orRefuse "FieldOptions").mapError fun r =>
    .located path (.badOptions r)

/-- What may be said of the form of a row. -/
def RowForm.ofResult : Except FormFault (List Node) → RowForm
  | .ok body => .nodes body
  | .error f => .fault f

mutual

/-- A declaration as a node. Scripts have no node. -/
def compile (path : List Step) : Declaration → Except FormFault Node
  | .input field options => do
    let here := path ++ [.input field]
    checkName here field
    return .input field (← checkOptions here options)
  | .collection field options => do
    let here := path ++ [.collection field]
    checkName here field
    let checked ← checkOptions here options
    if checked.collection.isNone then throw (.located here .noCollection)
    return .input field checked
  | .group label body options => do
    let here := path ++ [.group label]
    match body with
    | none => throw (.located here .groupWithoutBody)
    | some ds =>
      let level ← compileAll false here ds
      return .fieldset label level.nodes (← checkOptions here options)
  | .hasMany field builder options => do
    let here := path ++ [.hasMany field]
    checkName here field
    match builder with
    | none => throw (.located here .noRowBuilder)
    | some builder =>
      return .hasMany field (fun record => compileRow (builder record))
        (← checkOptions here options)
  | .actions body => do
    let here := path ++ [.actions]
    match body with
    | none => throw (.located here .actionsWithoutBody)
    | some ds => return .actions (← compileAll false here ds).nodes
  | .content content isMarkup => .ok (.content content isMarkup)
  | .script script => .ok (.script script)
  | .unknown v =>
    if v.isShowable then .error (.located path (.unknownDeclaration v.literal))
    else .error (.other (.misuse .length))

def compileAll (top : Bool) (path : List Step) : List Declaration → Except FormFault Level
  | [] => .ok ⟨[], none⟩
  | .script script :: rest => do
    if !top then throw (.located path .scriptBelowTop)
    let level ← compileAll top path rest
    return ⟨level.nodes, some (level.script.getD script)⟩
  | d :: rest => do
    let node ← compile path d
    let level ← compileAll top path rest
    return ⟨node :: level.nodes, level.script⟩

/-- One row, as a form of its own without scripts. -/
def compileRow : Description → RowForm
  | .declarations ds => .ofResult ((compileAll false [] ds).map Level.nodes)
  | .other kind => .fault (.located [] (.notDeclarations kind))
  | .failed fault => .fault (.other fault)

end

/-- The nodes of a form: those of its top level, and its script at the end. -/
def Level.withScript (l : Level) : List Node :=
  match l.script with
  | some script => l.nodes ++ [.script script]
  | none => l.nodes

def compileTop : Option Description → Except FormFault Level
  | none => .error (.located [] .noForm)
  | some (.other kind) => .error (.located [] (.notDeclarations kind))
  | some (.failed fault) => .error (.other fault)
  | some (.declarations ds) => compileAll true [] ds

def Tree.ofDescription (description : Option Description) (resource : String) :
    Except Fault Tree :=
  match compileTop description with
  | .ok level => .ok ⟨resource, level.withScript⟩
  | .error fault => .error (fault.ofForm resource)

/-- A compiled form for a resource that is any value. Faults name it as it is shown; in the end it
has to be a text. -/
def Tree.ofDescriptionFor (description : Option Description) (resource : Value) :
    Except Fault Tree := do
  let tree ← Tree.ofDescription description resource.toText
  return ⟨← ((Rule.text resource).under "resource").orFault "FormTree", tree.nodes⟩

end Formwright.Form
