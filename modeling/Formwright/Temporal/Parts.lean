import Formwright.Fault
import Formwright.Value.Access

/-!
# Parts of dates and times

A stored date or time may have any of several shapes: nothing, a table with the parts under their
names, a date or time value, a flat tuple of parts, or a pair of a date tuple and a time tuple.
`Kind.parts` brings all of them into one form, the parts by unit.

## Contents

* `Kind`, `Unit`: date, time or both; year to second.
* `dateParts`, `clockParts`: the two halves.
* `Kind.parts`: the parts of a value of a kind.
-/

namespace Formwright.Temporal

/-- What a composite control edits. -/
inductive Kind where
  | date
  | time
  | datetime
  deriving DecidableEq, Repr

inductive Unit where
  | year
  | month
  | day
  | hour
  | minute
  | second
  deriving DecidableEq, Repr

def Unit.name : Unit → String
  | .year => "year"
  | .month => "month"
  | .day => "day"
  | .hour => "hour"
  | .minute => "min"
  | .second => "sec"

def Unit.isOfDate : Unit → Bool
  | .year | .month | .day => true
  | _ => false

def Kind.hasDate : Kind → Bool
  | .time => false
  | _ => true

def Kind.hasClock : Kind → Bool
  | .date => false
  | _ => true

structure DateParts where
  year : Value
  month : Value
  day : Value

structure ClockParts where
  hour : Value
  minute : Value
  second : Value

def holdsTuple (items : List Value) : Bool :=
  items.any fun v => match v with
    | .tuple _ => true
    | _ => false

def dateTuple? : Value → Option DateParts
  | .tuple [year, month, day] =>
    if holdsTuple [year, month, day] then none else some ⟨year, month, day⟩
  | _ => none

/-- A flat tuple of hour, minute, second and perhaps microseconds. -/
def clockTuple? : Value → Option ClockParts
  | .tuple [hour, minute, second] =>
    if holdsTuple [hour, minute, second] then none else some ⟨hour, minute, second⟩
  | .tuple [hour, minute, second, micro] =>
    if holdsTuple [hour, minute, second, micro] then none else some ⟨hour, minute, second⟩
  | _ => none

def dateParts? : Value → Option DateParts
  | .none => some ⟨.none, .none, .none⟩
  | .table entries => do
    return ⟨← Value.named? entries "year", ← Value.named? entries "month",
      ← Value.named? entries "day"⟩
  | .date d => some ⟨.int d.year, .int d.month, .int d.day⟩
  | .datetime d _ => some ⟨.int d.year, .int d.month, .int d.day⟩
  | .tuple [date, _] => dateTuple? date
  | v => dateTuple? v

/-- The parts of a time of day, if the shape is a known one. The second may be left out of a
table. -/
def clockParts? : Value → Option ClockParts
  | .none => some ⟨.none, .none, .none⟩
  | .table entries => do
    return ⟨← Value.named? entries "hour", ← Value.named? entries "min",
      (Value.named? entries "sec").getD (.int 0)⟩
  | .time t => some ⟨.int t.hour, .int t.minute, .int t.second⟩
  | .datetime _ t => some ⟨.int t.hour, .int t.minute, .int t.second⟩
  | .tuple [_, clock] => clockTuple? clock
  | v => clockTuple? v

def dateParts (v : Value) : Except Fault DateParts :=
  match dateParts? v with
  | some parts => .ok parts
  | none => .error (.unrecognizedDate v)

def clockParts (v : Value) : Except Fault ClockParts :=
  match clockParts? v with
  | some parts => .ok parts
  | none => .error (.unrecognizedTime v)

def DateParts.entries (p : DateParts) : List (Unit × Value) :=
  [(.year, p.year), (.month, p.month), (.day, p.day)]

def ClockParts.entries (p : ClockParts) : List (Unit × Value) :=
  [(.hour, p.hour), (.minute, p.minute), (.second, p.second)]

/-- The parts of a value by unit, as far as the kind has them. -/
def Kind.parts (kind : Kind) (v : Value) : Except Fault (List (Unit × Value)) := do
  let date ← if kind.hasDate then DateParts.entries <$> dateParts v else pure []
  let clock ← if kind.hasClock then ClockParts.entries <$> clockParts v else pure []
  return date ++ clock

end Formwright.Temporal
