import Formwright.Toml.Scalar
import Formwright.Value.Access

/-!
# Values in TOML

Any value: texts, truth values, numbers, dates, arrays and inline tables. An inline table is closed:
what it holds cannot be added to later, and neither can the arrays and tables in it.

## Contents

* `descend`: the table that a path of keys leads to.
* `InlineTable.insert`: a key and its value, put into an inline table.
* `value`: a value.
-/

namespace Formwright.Toml

abbrev Entries := List (Value × Value)

def replaceNamed (name : String) (v : Value) : Entries → Entries
  | [] => []
  | e :: rest => if e.1.isText name then (e.1, v) :: rest else e :: replaceNamed name v rest

/-- Changes the last member of a list that is a table. -/
def changeLast (change : Entries → Except Flaw Entries) (items : List Value) :
    Except Flaw (List Value) :=
  match items.getLast? with
  | some (.table entries) => do return items.dropLast ++ [.table (← change entries)]
  | _ => .error .malformed

/-- Changes the table that a path leads to, making the tables on the way that are not there yet.
With `throughLists` the way goes on in the last member of a list. -/
def descend (throughLists : Bool) (change : Entries → Except Flaw Entries) :
    List String → Entries → Except Flaw Entries
  | [], entries => change entries
  | name :: path, entries =>
    match Value.named? entries name with
    | none => do
      return entries ++ [(.text name, .table (← descend throughLists change path []))]
    | some (.table inner) => do
      return replaceNamed name (.table (← descend throughLists change path inner)) entries
    | some (.list items) =>
      if throughLists then do
        let items ← changeLast (fun inner => descend throughLists change path inner) items
        return replaceNamed name (.list items) entries
      else .error .malformed
    | some _ => .error .malformed

def addNew (name : String) (v : Value) (entries : Entries) : Except Flaw Entries :=
  if (Value.named? entries name).isSome then .error .malformed
  else .ok (entries ++ [(.text name, v)])

def splitKey (key : List String) : List String × String := (key.dropLast, key.getLast?.getD "")

/-- A key is closed when it or what it starts with is. -/
def isClosed (closed : List (List String)) (key : List String) : Bool :=
  closed.any fun path => !path.isEmpty && path.isPrefixOf key

/-- Values with members are closed. -/
def hasMembers : Value → Bool
  | .table _ => true
  | .list _ => true
  | _ => false

/-- An inline table in the making, with the keys that are closed in it. -/
structure InlineTable where
  entries : Entries
  closed : List (List String)

def InlineTable.insert (t : InlineTable) (key : List String) (v : Value) :
    Except Flaw InlineTable := do
  if isClosed t.closed key then throw .malformed
  let (path, name) := splitKey key
  let entries ← descend false (addNew name v) path t.entries
  return ⟨entries, if hasMembers v then key :: t.closed else t.closed⟩

def skipComment (cs : List Char) : Except Flaw (List Char) :=
  match cs with
  | '#' :: more =>
    if (more.takeWhile (· != '\n')).any isControl then .error .malformed
    else .ok (more.dropWhile (· != '\n'))
  | _ => .ok cs

/-- Passes over blanks, line feeds and comments, of which there are at most `fuel`. -/
def skipLines : Nat → List Char → Except Flaw (List Char)
  | 0, cs => .ok cs
  | fuel + 1, cs =>
    match cs.dropWhile isSpaceOrBreak with
    | '#' :: more => do skipLines fuel (← skipComment ('#' :: more))
    | rest => .ok rest

def keyAndSign : Scan (List String) := fun cs => do
  let (key, rest) ← key cs
  match rest with
  | '=' :: more => return (key, skipSpaces more)
  | _ => throw .malformed

mutual

/-- A value; `fuel` bounds the values in it. -/
def value : Nat → Scan Value
  | 0, _ => .error .malformed
  | fuel + 1, cs =>
    match cs with
    | '"' :: '"' :: '"' :: rest => (longBasicString rest).map fun r => (.text r.1, r.2)
    | '"' :: rest => (basicString rest).map fun r => (.text r.1, r.2)
    | '\'' :: '\'' :: '\'' :: rest => (longLiteralString rest).map fun r => (.text r.1, r.2)
    | '\'' :: rest => (literalString rest).map fun r => (.text r.1, r.2)
    | 't' :: 'r' :: 'u' :: 'e' :: rest => .ok (.bool true, rest)
    | 'f' :: 'a' :: 'l' :: 's' :: 'e' :: rest => .ok (.bool false, rest)
    | '[' :: rest => do
      let (items, rest) ← arrayItems fuel (← skipLines rest.length rest)
      return (.list items, rest)
    | '\x7b' :: rest =>
      match skipSpaces rest with
      | '\x7d' :: rest => .ok (.table [], rest)
      | rest => do
        let (entries, rest) ← tableItems fuel ⟨[], []⟩ rest
        return (.table entries, rest)
    | cs => scalar cs

def arrayItems : Nat → Scan (List Value)
  | 0, _ => .error .malformed
  | fuel + 1, cs =>
    match cs with
    | ']' :: rest => .ok ([], rest)
    | cs => do
      let (v, rest) ← value fuel cs
      match ← skipLines rest.length rest with
      | ']' :: rest => return ([v], rest)
      | ',' :: rest =>
        let (items, rest) ← arrayItems fuel (← skipLines rest.length rest)
        return (v :: items, rest)
      | _ => throw .malformed

def tableItems : Nat → InlineTable → Scan Entries
  | 0, _, _ => .error .malformed
  | fuel + 1, t, cs => do
    let (key, rest) ← keyAndSign cs
    let (v, rest) ← value fuel rest
    let t ← t.insert key v
    match skipSpaces rest with
    | '\x7d' :: rest => return (t.entries, rest)
    | ',' :: rest => tableItems fuel t (skipSpaces rest)
    | _ => throw .malformed

end

end Formwright.Toml
