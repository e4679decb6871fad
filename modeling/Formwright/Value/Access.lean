import Formwright.Value.Equality

/-!
# Looking into values

Entries of tables and attributes of records. A record is either a table, read by key, or an object,
read by attribute. Numbers, dates and times have attributes as well: numbers their parts as complex
numbers and whole numbers as fractions, dates and times their components and the range they belong
to. Anything else has no attributes, and no record at all has none either.

## Contents

* `entry?`, `named?`, `put`, `tableOf`: entries of tables.
* `attributes`: the attributes of a value that is no table.
* `field?`, `field`: a field of a record.
-/

namespace Formwright.Value

/-! ## Entries -/

/-- The value is this text, marked up or not. -/
def isText (name : String) (v : Value) : Bool := v.string? == some name

def entry? (entries : List (Value × Value)) (key : Value) : Option Value :=
  (entries.find? fun e => same e.1 key).map (·.2)

def named? (entries : List (Value × Value)) (name : String) : Option Value :=
  (entries.find? fun e => e.1.isText name).map (·.2)

/-- Puts a value under a key: in place if the key is there, at the end otherwise. -/
def put (key value : Value) : List (Value × Value) → List (Value × Value)
  | [] => [(key, value)]
  | e :: rest => if same e.1 key then (e.1, value) :: rest else e :: put key value rest

/-- A table of entries of which some may share a key; the last one gives the value. -/
def tableOf (entries : List (Value × Value)) : List (Value × Value) :=
  entries.foldl (fun table e => put e.1 e.2 table) []

def table? : Value → Option (List (Value × Value))
  | .table entries => some entries
  | _ => Option.none

/-! ## Attributes -/

def wholeAttributes (n : Int) : List (String × Value) :=
  [("real", .int n), ("imag", .int 0), ("numerator", .int n), ("denominator", .int 1)]

def dateComponents (d : Date) : List (String × Value) :=
  [("year", .int d.year), ("month", .int d.month), ("day", .int d.day)]

/-- The components of a time of day. A time that an offset change repeats is the first of the
two. -/
def clockComponents (t : Clock) : List (String × Value) :=
  [("hour", .int t.hour), ("minute", .int t.minute), ("second", .int t.second),
    ("microsecond", .int t.microsecond), ("tzinfo", ofOption (t.offset.map .zone)),
    ("fold", .int 0)]

/-- The least and the greatest value of a kind, and the step between neighbours. -/
def rangeAttributes (least greatest : Value) (s : TimeStep) : List (String × Value) :=
  [("min", least), ("max", greatest), ("resolution", .step s)]

/-- The attributes of a value that is no table. -/
def attributes : Value → List (String × Value)
  | .bool b => wholeAttributes (if b then 1 else 0)
  | .int n => wholeAttributes n
  | .float x => [("real", .float x), ("imag", .float (.ofInt 0))]
  | .decimal x => [("real", .decimal x), ("imag", .decimal (.finite false 0 0))]
  | .date d => dateComponents d ++ rangeAttributes (.date .first) (.date .last) .day
  | .time t => clockComponents t ++ rangeAttributes (.time .midnight) (.time .last) .microsecond
  | .datetime d t => dateComponents d ++ clockComponents t
    ++ rangeAttributes (.datetime .first .midnight) (.datetime .last .last) .microsecond
  | .object attributes => attributes
  | _ => []

/-! ## Fields of records -/

def field? (record : Value) (name : String) : Option Value :=
  match record with
  | .table entries => named? entries name
  | v => v.attributes.lookup name

def field (record : Value) (name : String) : Value := ofOption (record.field? name)

end Formwright.Value
