import Formwright.Form.Options
import Formwright.Fault

/-!
# Form trees

A compiled form: an ordered list of nodes whose options have been checked. What a builder gives for
a record is compiled when its row is rendered; a body that cannot be compiled is kept as its fault.

## Contents

* `Node`, `RowForm`, `Tree`: the data.
* `Tree.script?`, `Tree.walk`, `Tree.fieldNames`: views of a tree.
-/

namespace Formwright.Form

mutual

/-- A compiled declaration. -/
inductive Node where
  | input (field : String) (options : FieldOptions)
  | fieldset (label : String) (body : List Node) (options : FieldOptions)
  /-- Rows of related records, each with the form that is compiled for it. -/
  | hasMany (field : String) (rows : Value → RowForm) (options : FieldOptions)
  | actions (body : List Node)
  | content (content : String) (isMarkup : Bool)
  | script (script : String)

/-- The form of one row. -/
inductive RowForm where
  | nodes (body : List Node)
  /-- There are no declarations for the row, or they cannot be compiled. -/
  | fault (fault : FormFault)

end

structure Tree where
  resource : String
  nodes : List Node

def Node.kind : Node → String
  | .input _ _ => "input"
  | .fieldset _ _ _ => "fieldset"
  | .hasMany _ _ _ => "has_many"
  | .actions _ => "actions"
  | .content _ _ => "content"
  | .script _ => "script"

def Node.fieldName? : Node → Option String
  | .input field _ => some field
  | .hasMany field _ _ => some field
  | _ => none

mutual

/-- A node and what is grouped in it, depth first. -/
def Node.walk : Node → List Node
  | .fieldset label body options => .fieldset label body options :: walkAll body
  | .actions body => .actions body :: walkAll body
  | n => [n]

def walkAll : List Node → List Node
  | [] => []
  | n :: rest => n.walk ++ walkAll rest

end

namespace Tree

def firstScript? : List Node → Option String
  | [] => none
  | .script s :: _ => some s
  | _ :: rest => firstScript? rest

def script? (t : Tree) : Option String := firstScript? t.nodes

/-- All nodes in declaration order, those of groups after their group. -/
def walk (t : Tree) : List Node := walkAll t.nodes

def fieldNames (t : Tree) : List String := t.walk.filterMap Node.fieldName?

end Tree

end Formwright.Form
