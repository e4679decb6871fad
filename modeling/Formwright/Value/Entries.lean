import Formwright.Fault
import Formwright.Value.Access

/-!
# Values in places that not every value fits

What values may be keys, members, entries or names, and the misuse where they may not. A table may
also be given as a sequence of pairs, each a key and a value; of pairs that share a key the last one
counts.

## Contents

* `isKey`, `keyed`, `lookup?`: keys of tables.
* `members`: the members of a value.
* `entriesOf`, `byName`, `namedEntries`: the entries of a value.
* `equals`, `isBelow`: comparisons that have no answer for every value.
* `fieldAt`: a field of a record under a name that is any value.
* `lacks`: an operation that a value does not have.
-/

namespace Formwright.Value

/-! ## Keys -/

mutual

def isKey : Value → Bool
  | .list _ => false
  | .table _ => false
  | .object _ => false
  | .tuple items => areKeys items
  | v => !v.isSignalling

def areKeys : List Value → Bool
  | [] => true
  | v :: rest => isKey v && areKeys rest

end

/-- A table of entries of which some may share a key, if every key may be one. -/
def keyed (entries : List (Value × Value)) : Except Fault Value :=
  if areKeys (entries.map (·.1)) then .ok (.table (tableOf entries)) else .error (.misuse .kind)

/-- The value under a key that is looked for, which has to be one that may be a key. -/
def lookup? (entries : List (Value × Value)) (key : Value) : Except Fault (Option Value) :=
  if isKey key then .ok <| entry? entries key else .error (.misuse .kind)

/-! ## Members and entries -/

def members (v : Value) : Except Fault (List Value) :=
  match v.items? with
  | some items => .ok items
  | Option.none => .error (.misuse .kind)

/-- The members of a value; one that counts as false has none. -/
def membersOrNone (v : Value) : Except Fault (List Value) := if v.isTrue then members v else .ok []

def pairParts (v : Value) : Except Fault (Value × Value) := do
  match ← members v with
  | [first, second] => return (first, second)
  | _ => throw (.misuse .length)

def pairEntry (v : Value) : Except Fault (Value × Value) := do
  let (key, value) ← pairParts v
  if isKey key then return (key, value) else throw (.misuse .kind)

/-- The entries of a table, or of a sequence of pairs. -/
def entriesOf (v : Value) : Except Fault (List (Value × Value)) :=
  match v with
  | .table entries => .ok entries
  | v => do return tableOf (← (← members v).mapM pairEntry)

def byName (entries : List (Value × Value)) : Except Fault (List (String × Value)) :=
  entries.mapM fun e =>
    match e.1.string? with
    | some name => .ok (name, e.2)
    | Option.none => .error (.misuse .kind)

def namedEntries (v : Value) : Except Fault (List (String × Value)) :=
  match v with
  | .table entries => byName entries
  | _ => .error (.misuse .kind)

/-! ## Comparisons -/

/-- Whether two values are equal, which has to have an answer. -/
def equals (a b : Value) : Except Fault Bool :=
  match a.equal? b with
  | some answer => .ok answer
  | Option.none => .error (.misuse .signal)

/-- Whether a number is below a count. A missing number is below none, but a missing decimal number
cannot be asked. -/
def isBelow (v : Value) (count : Nat) : Except Fault Bool :=
  match v with
  | .float .nan => .ok false
  | .decimal (.nan _ _ _) => .error (.misuse .signal)
  | v =>
    match v.quantity?, v.infinite? with
    | some q, _ => .ok (q.isBelow count)
    | _, some negative => .ok negative
    | _, _ => .error (.misuse .kind)

/-! ## Fields -/

/-- A field of a record. Keys of tables may be anything that may be a key, attributes are named by
texts; no record at all has no field whatever the name. -/
def fieldAt (record name fallback : Value) : Except Fault Value :=
  match record with
  | .none => .ok fallback
  | .table entries => (lookup? entries name).map (·.getD fallback)
  | v =>
    match name.string? with
    | some s => .ok ((v.attributes.lookup s).getD fallback)
    | Option.none => .error (.misuse .kind)

/-- The misuse of asking a value for an operation that its kind does not have. An attribute of that
name is there, but it is no operation. -/
def lacks (v : Value) (operation : String) : Fault :=
  if (v.attributes.lookup operation).isSome then .misuse .kind else .misuse .attribute

end Formwright.Value
