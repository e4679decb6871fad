import Formwright.Fault
import Formwright.Text.Case
import Formwright.Text.Replace
import Formwright.Value.Entries
import Formwright.Words.Inflection

/-!
# Rows of related records

The rows of a has-many relation are numbered from zero in the order of the related records. One more
row is a template for new records: its index is a sentinel, which a script replaces by the time when
a new row is inserted. What was submitted for the rows is a table by index or a list.
-/

namespace Formwright.Rows

open Text Words

/-- The index of the template row. -/
def sentinel (relation : String) : String :=
  let name := (singularize relation).toList.map fun c => if c == ' ' then '_' else c
  "NEW_" ++ upper (String.ofList name) ++ "_RECORD"

/-- The index of the template row of a relation that is any value but has to be a text. -/
def sentinelAt (relation : Value) : Except Fault String :=
  match relation.string? with
  | some name => .ok (sentinel name)
  | none => .error (.misuse .attribute)

/-- The script that inserts a copy of the template with a fresh index. -/
def insertScript (templateId sentinel : String) : String :=
  "var html = $('#" ++ templateId ++ "').html().replace(/" ++ sentinel
    ++ "/g, new Date().getTime()); $(this).before(html); return false;"

/-- What was submitted under an index: in a table under its numeral or else under the number, in a
list at its position. -/
def submittedAt (submitted : Value) (index : Int) : Option Value :=
  match submitted with
  | .table entries =>
    Value.named? entries (toString index) <|> Value.entry? entries (.int index)
  | .list items => if index < 0 then none else items[index.toNat]?
  | _ => none

/-- The values submitted for a row; nothing unless they are a table. -/
def values (submitted : Value) (index : Int) : Option (List (Value × Value)) :=
  submittedAt submitted index >>= Value.table?

/-- The member of a list at a position, where a negative position counts from the end. -/
def atPosition (items : List Value) (position : Int) : Except Fault Value :=
  let fromStart := if position < 0 then position + items.length else position
  match if fromStart < 0 then none else items[fromStart.toNat]? with
  | some v => .ok v
  | none => .error (.misuse .position)

/-- The member of a list at an index that is any value: there is none beyond the end, and otherwise
the index has to be a whole number. -/
def memberAt (items : List Value) (index : Value) : Except Fault Value := do
  if ← index.isBelow items.length then
    match index with
    | .int n => atPosition items n
    | .bool b => atPosition items (if b then 1 else 0)
    | _ => throw (.misuse .kind)
  else return .none

def valuesAt (submitted index : Value) : Except Fault (Option (List (Value × Value))) := do
  let row ← match submitted with
    | .table entries => do
      let own ← Value.lookup? entries index
      pure (Value.ofOption (Value.named? entries index.toText <|> own))
    | .list items => memberAt items index
    | _ => pure .none
  return row.table?

end Formwright.Rows
