import Formwright.Toml.Nested

/-!
# TOML documents

A document is read statement by statement: a key with a value, or the header of a table or of a new
member of a list of tables, under which the following keys are put. No key is given twice, a table
has at most one header, and inline values are closed.

## Contents

* `Document`: what was read so far, and what may not be opened or changed any more.
* `Document.assign`, `openTable`, `openMember`: the statements.
* `parse`: a whole document.
-/

namespace Formwright.Toml

/-- What was read so far. -/
structure Document where
  root : Entries
  /-- The table that the next keys are put into. -/
  header : List String
  /-- Tables that cannot be opened by a header any more. -/
  opened : List (List String)
  /-- Tables made by dotted keys, which count as opened from the next header on. -/
  pending : List (List String)
  /-- Arrays and inline tables, which cannot be changed. -/
  closed : List (List String)

namespace Document

def empty : Document := ⟨[], [], [], [], []⟩

/-- The tables on the way of a dotted key: its proper prefixes. -/
def tablesOf (header key : List String) : List (List String) :=
  (List.range (key.length - 1)).map fun i => header ++ key.take (i + 1)

def assign (d : Document) (key : List String) (v : Value) : Except Flaw Document := do
  let tables := tablesOf d.header key
  if tables.any d.opened.contains then throw .malformed
  let (path, name) := splitKey key
  if isClosed d.closed (d.header ++ path) then throw .malformed
  let root ← descend true (addNew name v) (d.header ++ path) d.root
  return { d with
    root := root
    pending := tables ++ d.pending
    closed := if hasMembers v then (d.header ++ key) :: d.closed else d.closed }

/-- Tables made by dotted keys count as opened. -/
def settle (d : Document) : Document := { d with opened := d.pending ++ d.opened, pending := [] }

def openTable (d : Document) (key : List String) : Except Flaw Document := do
  let d := d.settle
  if d.opened.contains key || isClosed d.closed key then throw .malformed
  let root ← descend true .ok key d.root
  return { d with root := root, header := key, opened := key :: d.opened }

def addMember (name : String) (entries : Entries) : Except Flaw Entries :=
  match Value.named? entries name with
  | none => .ok (entries ++ [(.text name, .list [.table []])])
  | some (.list items) => .ok (replaceNamed name (.list (items ++ [.table []])) entries)
  | some _ => .error .malformed

/-- The header of a new member of a list of tables. What was said of earlier members does not hold
of this one. -/
def openMember (d : Document) (key : List String) : Except Flaw Document := do
  let d := d.settle
  if isClosed d.closed key then throw .malformed
  let (path, name) := splitKey key
  let root ← descend true (addMember name) path d.root
  return { d with
    root := root
    header := key
    opened := key :: d.opened.filter fun path => !key.isPrefixOf path
    closed := d.closed.filter fun path => !key.isPrefixOf path }

end Document

/-- The header of a table or of a member of a list; its first bracket is read already. -/
def headerLine (d : Document) (cs : List Char) : Except Flaw (Document × List Char) :=
  match cs with
  | '[' :: rest => do
    let (key, rest) ← key (skipSpaces rest)
    let d ← d.openMember key
    match rest with
    | ']' :: ']' :: rest => return (d, rest)
    | _ => throw .malformed
  | cs => do
    let (key, rest) ← key (skipSpaces cs)
    let d ← d.openTable key
    match rest with
    | ']' :: rest => return (d, rest)
    | _ => throw .malformed

/-- One statement at the start of a line; a line without one is left as it is. -/
def statement (fuel : Nat) (d : Document) (cs : List Char) :
    Except Flaw (Document × List Char) :=
  match cs with
  | '[' :: rest => headerLine d rest
  | c :: rest =>
    if startsKey c then do
      let (key, rest) ← keyAndSign (c :: rest)
      let (v, rest) ← value fuel rest
      return (← d.assign key v, rest)
    else if c == '#' || c == '\n' then .ok (d, c :: rest)
    else .error .malformed
  | [] => .ok (d, [])

/-- The lines of a document, of which there are at most `fuel`. -/
def lines (size : Nat) : Nat → Document → List Char → Except Flaw Document
  | 0, _, _ => .error .malformed
  | fuel + 1, d, cs => do
    let (d, rest) ← statement size d (skipSpaces cs)
    match ← skipComment (skipSpaces rest) with
    | [] => return d
    | '\n' :: rest => lines size fuel d rest
    | _ => throw .malformed

def dropReturns : List Char → List Char
  | '\r' :: '\n' :: cs => '\n' :: dropReturns cs
  | c :: cs => c :: dropReturns cs
  | [] => []

def parse (source : String) : Except Flaw Entries := do
  let cs := dropReturns source.toList
  let size := cs.length + 1
  return (← lines size size .empty cs).root

end Formwright.Toml
