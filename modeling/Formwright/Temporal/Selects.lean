import Formwright.Temporal.Parts
import Formwright.Text.Replace
import Formwright.Value.Entries

/-!
# Selects of a composite control

A date or time is edited by one select per unit. The select of unit `u` of a field has the id
`field_u` and the name `field[u]`; all but the first have a separator before them. Choices come from
the unit's own options or from the default range of the unit. A choice is selected when it stands
for the same number as the stored part, or, where one of them is no number, has the same text.

## Contents

* `normalized`: the text by which parts and choices are compared.
* `Choice`, `Select`: the data of a select.
* `Kind.units`: which selects a control has.
* `Kind.selects`: the control.
* `wantsSecondsIn`, `Kind.unitsIn`, `Kind.selectsIn`: the same for options that are any value.
-/

namespace Formwright.Temporal

structure Choice where
  label : String
  value : String
  selected : Bool
  deriving DecidableEq, Repr

/-- One select of a composite control, with the class of the separator before it. -/
structure Select where
  unit : Unit
  id : String
  name : String
  choices : List Choice
  separator : Option String
  deriving DecidableEq, Repr

/-- The whole number a part stands for: its whole part, or the number a text reads as. -/
def whole? : Value → Except Fault (Option Int)
  | .bool b => .ok (some (if b then 1 else 0))
  | .int n => .ok (some n)
  | .float (.infinite _) => .error (.misuse .infinite)
  | .float x => .ok x.truncate?
  | .decimal (.infinite _) => .error (.misuse .infinite)
  | .decimal x => .ok x.truncate?
  | .text s => .ok (Text.readWhole s)
  | .markup s => .ok (Text.readWhole s)
  | _ => .ok none

/-- The text by which a part is compared: the numeral of the number it stands for, or else its own
text. Nothing has the empty text. -/
def normalized (v : Value) : Except Fault String := do
  if v.isNone then return ""
  else return ((← whole? v) >>= Text.numeral?).getD v.toText

def normalizedText (s : String) : String := ((Text.readWhole s) >>= Text.numeral?).getD s

/-- A choice given as a value, or as a label and a value. -/
def choiceOf : Value → String × String
  | .tuple [label, value] => (label.toText, value.toText)
  | .list [label, value] => (label.toText, value.toText)
  | v => (v.toText, v.toText)

def months : List (String × String) := [
  ("January", "1"), ("February", "2"), ("March", "3"), ("April", "4"), ("May", "5"),
  ("June", "6"), ("July", "7"), ("August", "8"), ("September", "9"), ("October", "10"),
  ("November", "11"), ("December", "12")]

def twoDigitChoices (first last : Nat) : List (String × String) :=
  (List.range (last + 1 - first)).map fun i => (padded 2 (first + i), toString (first + i))

/-- The years from `span` before to `span` after this one. -/
def yearChoices (today : Date) (span : Int) : List (String × String) :=
  (List.range (2 * span + 1).toNat).map fun (i : Nat) =>
    let year := toString ((today.year : Int) - span + i)
    (year, year)

def defaultChoices (today : Date) (span : Int) : Unit → List (String × String)
  | .year => yearChoices today span
  | .month => months
  | .day => twoDigitChoices 1 31
  | .hour => twoDigitChoices 0 23
  | .minute => twoDigitChoices 0 59
  | .second => twoDigitChoices 0 59

/-- The choices of a unit: those under `options` in the unit's own options, or the default. -/
def unitChoices (options : List (Value × Value)) (today : Date) (span : Int) (unit : Unit) :
    Except Fault (List (String × String)) :=
  match Value.named? options unit.name with
  | some (.table own) =>
    match Value.named? own "options" with
    | some given =>
      match given.items? with
      | some items => .ok (items.map choiceOf)
      | none => .error (.misuse .kind)
    | none => .ok (defaultChoices today span unit)
  | _ => .ok (defaultChoices today span unit)

/-- Seconds are asked for by an option of that name which is neither nothing nor false. -/
def wantsSeconds (options : List (Value × Value)) : Bool :=
  match Value.named? options "sec" with
  | none => false
  | some .none => false
  | some (.bool b) => b
  | some _ => true

def Kind.unitsWith (kind : Kind) (seconds : Bool) : List Unit :=
  (if kind.hasDate then [.year, .month, .day] else []) ++
    (if kind.hasClock then
      if seconds then [.hour, .minute, .second] else [.hour, .minute]
    else [])

def Kind.units (kind : Kind) (options : List (Value × Value)) : List Unit :=
  kind.unitsWith (wantsSeconds options)

def separator (previous : Option Unit) (unit : Unit) : Option String :=
  previous.map fun p =>
    if unit.isOfDate then "date-separator"
    else if p.isOfDate then "date-time-separator"
    else "time-separator"

/-- What the selects of one control share. -/
structure Setting where
  id : String
  name : String
  options : List (Value × Value)
  today : Date
  yearSpan : Int

def Setting.select (s : Setting) (parts : List (Unit × Value)) (previous : Option Unit)
    (unit : Unit) : Except Fault Select := do
  let choices ← unitChoices s.options s.today s.yearSpan unit
  let current ← normalized ((parts.lookup unit).getD .none)
  return {
    unit
    id := s.id ++ "_" ++ unit.name
    name := s.name ++ "[" ++ unit.name ++ "]"
    choices := choices.map fun c => ⟨c.1, c.2, normalizedText c.2 == current⟩
    separator := separator previous unit }

def Setting.selectsAfter (s : Setting) (parts : List (Unit × Value)) :
    Option Unit → List Unit → Except Fault (List Select)
  | _, [] => .ok []
  | previous, unit :: rest => do
    let first ← s.select parts previous unit
    return first :: (← s.selectsAfter parts (some unit) rest)

def Kind.selects (kind : Kind) (v : Value) (s : Setting) : Except Fault (List Select) := do
  let parts ← kind.parts v
  s.selectsAfter parts none (kind.units s.options)

/-! ## Options that are any value -/

/-- Whether a value without entries has seconds in it: a list or tuple among its members, a text
among its parts. -/
def mentionsSeconds : Value → Except Fault Bool
  | .list items => .ok (items.any (·.isText Unit.second.name))
  | .tuple items => .ok (items.any (·.isText Unit.second.name))
  | .text s => .ok (Text.occursIn Unit.second.name.toList s.toList)
  | .markup s => .ok (Text.occursIn Unit.second.name.toList s.toList)
  | _ => .error (.misuse .kind)

/-- Whether options that are any value ask for seconds. What has no entries cannot say whether it
means them. -/
def wantsSecondsIn : Value → Except Fault Bool
  | .table entries => .ok (wantsSeconds entries)
  | v => do if ← mentionsSeconds v then throw (.misuse .kind) else return false

/-- The units of a control in order; options are looked into only for a time of day. -/
def Kind.unitsIn (kind : Kind) (options : Value) : Except Fault (List Unit) := do
  return kind.unitsWith (← if kind.hasClock then wantsSecondsIn options else pure false)

/-- The selects that edit a value, with options that are any value in place of those of the setting.
A value that counts as false has no options; any other has to be a table. -/
def Kind.selectsIn (kind : Kind) (v options : Value) (s : Setting) :
    Except Fault (List Select) :=
  match options.isTrue, options with
  | false, _ => kind.selects v { s with options := [] }
  | true, .table entries => kind.selects v { s with options := entries }
  | true, other => do
    let _ ← kind.parts v
    let _ ← kind.unitsIn other
    throw (other.lacks "get")

end Formwright.Temporal
