import Formwright.Text.Digits
import Formwright.Text.Quoted
import Formwright.Text.Replace
import Formwright.Value.Basic

/-!
# Texts of values

`Value.toText` is the text of a value where it is shown, `Value.literal` its quoted form in messages
and inside lists, tuples and tables. They differ for texts, decimals, dates, times and what belongs
to these only; what has members is always written in the quoted form. Whole numbers with too many
digits are not written at all: `Value.isShowable` holds if there are none in a value.
-/

namespace Formwright.Value

open Formwright.Text

def boolText (b : Bool) : String := if b then "True" else "False"

/-- A constructor form: numbers separated by commas and an optional time zone. -/
def calendarLiteral (name : String) (arguments : List Nat) (offset : Option Int) : String :=
  let zone := match offset with
    | some offset => ["tzinfo=" ++ Clock.offsetLiteral offset]
    | Option.none => []
  "datetime." ++ name ++ "(" ++ joinWith ", " (arguments.map toString ++ zone) ++ ")"

mutual

/-- The quoted form of a value. -/
def literal : Value → String
  | .none => "None"
  | .bool b => boolText b
  | .int n => toString n
  | .float x => x.text
  | .decimal x => "Decimal('" ++ x.text ++ "')"
  | .text s => quoted s
  | .markup s => "Markup(" ++ quoted s ++ ")"
  | .date d => calendarLiteral "date" d.arguments Option.none
  | .time t => calendarLiteral "time" t.arguments t.offset
  | .datetime d t => calendarLiteral "datetime" (d.arguments ++ t.arguments) t.offset
  | .zone offset => Clock.offsetLiteral offset
  | .step s => s.literal
  | .list items => "[" ++ joinWith ", " (literals items) ++ "]"
  | .tuple items =>
    "(" ++ joinWith ", " (literals items) ++ (if items.length == 1 then ",)" else ")")
  | .table entries => "\x7b" ++ joinWith ", " (entryLiterals entries) ++ "\x7d"
  | .object attributes => "namespace(" ++ joinWith ", " (attributeLiterals attributes) ++ ")"
  | .computed _ => "<function>"

def literals : List Value → List String
  | [] => []
  | v :: rest => literal v :: literals rest

def entryLiterals : List (Value × Value) → List String
  | [] => []
  | (k, v) :: rest => (literal k ++ ": " ++ literal v) :: entryLiterals rest

def attributeLiterals : List (String × Value) → List String
  | [] => []
  | (k, v) :: rest => (k ++ "=" ++ literal v) :: attributeLiterals rest

end

/-- The text of a value where it is shown. -/
def toText : Value → String
  | .decimal x => x.text
  | .text s => s
  | .markup s => s
  | .date d => d.iso
  | .time t => t.iso
  | .datetime d t => d.iso ++ " " ++ t.iso
  | .zone offset => Clock.zoneText offset
  | .step s => s.text
  | v => v.literal

/-- The value can be written if it is a whole number. -/
def hasNumeral : Value → Bool
  | .int n => (numeral? n).isSome
  | _ => true

/-- The value has a text: no whole number in it has too many digits to be written. -/
def isShowable (v : Value) : Bool := v.everyLeaf hasNumeral

end Formwright.Value
