import Formwright.Form.Declaration
import Formwright.Value.Entries

/-!
# Item lists

Declarations written as a list of tables, each with a `kind`. The items of groups, rows and actions
are item lists again; a fault is reported with the way to the item, such as
`form.items[0].items[2]`.

## Contents

* `Items.declaration`: the declaration of one item.
* `Items.load`: an item list as declarations.
-/

namespace Formwright.Form

namespace Items

def fieldOr (entries : List (Value × Value)) (name : String) (fallback : Value) : Value :=
  (Value.named? entries name).getD fallback

/-- The declaration of an item, given what is loaded from its `items`. -/
def declaration (path : String) (entries : List (Value × Value))
    (children : Except Fault (Option (List Declaration))) : Except Fault Declaration := do
  match Value.named? entries "kind" with
  | none => throw (.item path .noKind)
  | some kind =>
    let options ← Value.entriesOf (fieldOr entries "options" (.table []))
    let field := fieldOr entries "field" (.text "")
    if kind.isText "input" then Declaration.ofInput field options
    else if kind.isText "inputs" then do
      let body ← children
      Declaration.ofLabelled (fieldOr entries "label" (.text "")) (.ok body) options
    else if kind.isText "collection_inputs" then
      Declaration.ofCollection field ((Value.named? options "collection").getD .none)
        (options.filter fun e => !e.1.isText "collection")
    else if kind.isText "has_many" then do
      let body ← children
      Declaration.ofHasMany field (body.map fun ds => RowBuilder.always (.declarations ds)) options
    else if kind.isText "actions" then do return .actions (← children)
    else if kind.isText "content" then
      Declaration.ofContent (fieldOr entries "content" (.text "")) true
    else if kind.isText "text" then
      Declaration.ofContent (fieldOr entries "content" (.text "")) false
    else if kind.isText "javascript" then
      Declaration.ofScript (fieldOr entries "script" (.text ""))
    else if kind.isShowable then throw (.item path (.unknownKind kind.toText))
    else throw (.misuse .length)

def itemPath (path : String) (index : Nat) : String := path ++ "[" ++ toString index ++ "]"

def itemsPath (path : String) : String := path ++ ".items"

mutual

/-- An item list as declarations. -/
def load (path : String) : Value → Except Fault (List Declaration)
  | .list items => loadFrom path 0 items
  | _ => .error (.item path .notList)

/-- The items of a list, from an index on. -/
def loadFrom (path : String) (index : Nat) : List Value → Except Fault (List Declaration)
  | [] => .ok []
  | v :: rest => do
    let d ← loadItem (itemPath path index) v
    return d :: (← loadFrom path (index + 1) rest)

def loadItem (path : String) : Value → Except Fault Declaration
  | .table entries => declaration path entries (loadChildren path entries)
  | _ => .error (.item path .noKind)

def loadChildren (path : String) :
    List (Value × Value) → Except Fault (Option (List Declaration))
  | [] => .ok none
  | (key, v) :: rest =>
    if key.isText "items" then
      if v.isNone then .ok none else some <$> load (itemsPath path) v
    else loadChildren path rest

end

end Items

end Formwright.Form
