import Formwright.Calendar
import Formwright.Number.Binary64

/-!
# Values

The dynamic data of records, submitted parameters, options and collections. A table keeps its
entries in insertion order; an object has named attributes. A computed value stands for a function
that gives a collection anew in every render.

## Contents

* `Value`, `Source`: the data.
* `Value.kind`: the name of a value's kind in messages.
* `Value.isTrue`: whether a value counts as true.
* `Value.everyLeaf`: a property of all that a value is made of.
-/

namespace Formwright

mutual

/-- A dynamic value. -/
inductive Value where
  | none
  | bool (b : Bool)
  | int (n : Int)
  | float (x : Binary64)
  | decimal (x : Decimal)
  | text (s : String)
  /-- Text that is already markup and is not escaped again. -/
  | markup (s : String)
  | date (d : Date)
  | time (t : Clock)
  | datetime (d : Date) (t : Clock)
  /-- A time zone, by its offset from universal time in microseconds. -/
  | zone (offset : Int)
  | step (s : TimeStep)
  | list (items : List Value)
  | tuple (items : List Value)
  | table (entries : List (Value × Value))
  | object (attributes : List (String × Value))
  | computed (source : Source)

/-- Which function gives a computed collection. -/
inductive Source where
  /-- A function that came with the form, by its name. -/
  | function (name : String)
  /-- The function that gives the records of another model, as a loader gave them. -/
  | related (model : String) (records : Value)

end

instance : Inhabited Value := ⟨.none⟩

namespace Value

def kind : Value → String
  | .none => "NoneType"
  | .bool _ => "bool"
  | .int _ => "int"
  | .float _ => "float"
  | .decimal _ => "Decimal"
  | .text _ => "str"
  | .markup _ => "Markup"
  | .date _ => "date"
  | .time _ => "time"
  | .datetime _ _ => "datetime"
  | .zone _ => "timezone"
  | .step _ => "timedelta"
  | .list _ => "list"
  | .tuple _ => "tuple"
  | .table _ => "dict"
  | .object _ => "SimpleNamespace"
  | .computed _ => "function"

/-- Nothing, false, zero and whatever is empty count as false. -/
def isTrue : Value → Bool
  | .none => false
  | .bool b => b
  | .int n => n != 0
  | .float x => x.isTrue
  | .decimal x => x.isTrue
  | .text s => s != ""
  | .markup s => s != ""
  | .list items => !items.isEmpty
  | .tuple items => !items.isEmpty
  | .table entries => !entries.isEmpty
  | _ => true

def characters (s : String) : List Value := s.toList.map fun c => .text c.toString

/-- The members of a value that has members: a table has its keys, a text its characters. -/
def items? : Value → Option (List Value)
  | .list items => some items
  | .tuple items => some items
  | .table entries => some (entries.map (·.1))
  | .text s => some (characters s)
  | .markup s => some (characters s)
  | _ => Option.none

/-- The text of a value that is a text, marked up or not. -/
def string? : Value → Option String
  | .text s => some s
  | .markup s => some s
  | _ => Option.none

def isNone : Value → Bool
  | .none => true
  | _ => false

def ofOption : Option Value → Value
  | some v => v
  | Option.none => .none

def ofText? : Option String → Value
  | some s => .text s
  | Option.none => .none

/-! ## What values are made of -/

mutual

/-- Whatever the value is made of has the property. -/
def everyLeaf (p : Value → Bool) : Value → Bool
  | .list items => allLeaves p items
  | .tuple items => allLeaves p items
  | .table entries => entryLeaves p entries
  | .object attributes => attributeLeaves p attributes
  | v => p v

def allLeaves (p : Value → Bool) : List Value → Bool
  | [] => true
  | v :: rest => everyLeaf p v && allLeaves p rest

def entryLeaves (p : Value → Bool) : List (Value × Value) → Bool
  | [] => true
  | (key, v) :: rest => everyLeaf p key && everyLeaf p v && entryLeaves p rest

def attributeLeaves (p : Value → Bool) : List (String × Value) → Bool
  | [] => true
  | (_, v) :: rest => everyLeaf p v && attributeLeaves p rest

end

end Value

end Formwright
