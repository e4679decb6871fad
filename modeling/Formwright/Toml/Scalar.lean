import Formwright.Toml.Quoted
import Formwright.Value.Basic

/-!
# Numbers, dates and times in TOML

Whole numbers in four bases, numbers with a fraction or an exponent, dates, times of day and both.
Each scanner gives nothing where its form does not start, so that the next one may be tried; a form
is read as far as it goes.
-/

namespace Formwright.Toml

open Text

/-- Digits with single underscores between them, without the underscores. -/
def digitGroup (isDigit : Char → Bool) : List Char → List Char × List Char
  | [] => ([], [])
  | c :: cs =>
    if isDigit c then
      match cs with
      | '_' :: d :: more =>
        if isDigit d then
          let (ds, rest) := digitGroup isDigit (d :: more)
          (c :: ds, rest)
        else ([c], cs)
      | cs =>
        let (ds, rest) := digitGroup isDigit cs
        (c :: ds, rest)
    else ([], c :: cs)

def digitsValue (base : Nat) (ds : List Char) : Nat := ofDigits base (ds.filterMap hexValue?)

/-- A whole number in a base other than ten; the mark of the base is read already. -/
def based? (base : Nat) (isDigit : Char → Bool) (cs : List Char) : Option (Value × List Char) :=
  let (ds, rest) := digitGroup isDigit cs
  if ds.isEmpty then none else some (.int (digitsValue base ds), rest)

/-- The whole part of a number: zero, or digits that do not start with zero. -/
def wholePart? (cs : List Char) : Option (List Char × List Char) :=
  match cs with
  | '0' :: rest => some (['0'], rest)
  | cs =>
    let (ds, rest) := digitGroup Char.isDigit cs
    if ds.isEmpty then none else some (ds, rest)

def fractionPart? (cs : List Char) : Option (List Char × List Char) :=
  match cs with
  | '.' :: more =>
    let (ds, rest) := digitGroup Char.isDigit more
    if ds.isEmpty then none else some (ds, rest)
  | _ => none

def exponentPart? (cs : List Char) : Option (Int × List Char) :=
  match cs with
  | mark :: more =>
    if mark == 'e' || mark == 'E' then
      let (negative, body) := splitSign more
      let (ds, rest) := digitGroup Char.isDigit body
      if ds.isEmpty then none else some (signed negative (digitsValue 10 ds), rest)
    else none
  | [] => none

def decimal? (cs : List Char) : Option (Except Flaw (Value × List Char)) := do
  let (negative, body) := splitSign cs
  let (whole, rest) ← wholePart? body
  let fraction := fractionPart? rest
  let (digits, rest) := fraction.getD ([], rest)
  let exponent := exponentPart? rest
  let (power, rest) := exponent.getD (0, rest)
  if fraction.isSome || exponent.isSome then
    let coefficient := digitsValue 10 (whole ++ digits)
    some (.ok (.float (.ofScaled negative coefficient (power - digits.length)), rest))
  else if whole.length > maxDigits then some (.error .longNumeral)
  else some (.ok (.int (signed negative (digitsValue 10 whole)), rest))

def isBinary (c : Char) : Bool := c == '0' || c == '1'

def isOctal (c : Char) : Bool := '0' ≤ c && c ≤ '7'

def isHex (c : Char) : Bool := (hexValue? c).isSome

def number? (cs : List Char) : Option (Except Flaw (Value × List Char)) :=
  let marked := match cs with
    | '0' :: 'x' :: more => based? 16 isHex more
    | '0' :: 'b' :: more => based? 2 isBinary more
    | '0' :: 'o' :: more => based? 8 isOctal more
    | _ => none
  marked.map .ok <|> decimal? cs

/-- Two digits, up to a limit. -/
def pair? (limit : Nat) (cs : List Char) : Option (Nat × List Char) := do
  let (n, rest) ← Clock.twoDigits? cs
  if n ≤ limit then some (n, rest) else none

def expect? (c : Char) (cs : List Char) : Option (List Char) :=
  match cs with
  | d :: rest => if d == c then some rest else none
  | [] => none

/-- The microseconds of a fraction, if there is one. -/
def fraction (cs : List Char) : Nat × List Char :=
  match cs with
  | '.' :: more =>
    let ds := more.takeWhile Char.isDigit
    if ds.isEmpty then (0, cs)
    else (Clock.microseconds (ds.filterMap asciiDigitValue?), more.dropWhile Char.isDigit)
  | _ => (0, cs)

def clock? (cs : List Char) : Option (Clock × List Char) := do
  let (hour, rest) ← pair? 23 cs
  let (minute, rest) ← pair? 59 (← expect? ':' rest)
  let (second, rest) ← pair? 59 (← expect? ':' rest)
  let (micro, rest) := fraction rest
  return (⟨hour, minute, second, micro, none⟩, rest)

/-- An offset of hours and minutes, in microseconds. -/
def signedOffset? (sign : Char) (cs : List Char) : Option (Int × List Char) := do
  if sign == '+' || sign == '-' then
    let (hour, rest) ← pair? 23 cs
    let (minute, rest) ← pair? 59 (← expect? ':' rest)
    return (signed (sign == '-') ((hour * 3600 + minute * 60) * 1000000), rest)
  else none

def offset (cs : List Char) : Option Int × List Char :=
  match cs with
  | c :: rest =>
    if c == 'Z' || c == 'z' then (some 0, rest)
    else
      match signedOffset? c rest with
      | some (micros, rest) => (some micros, rest)
      | none => (none, cs)
  | [] => (none, cs)

def clockAfterDate? (cs : List Char) : Option (Clock × List Char) := do
  match cs with
  | mark :: more =>
    if mark == 'T' || mark == 't' || mark == ' ' then
      let (clock, rest) ← clock? more
      let (micros, rest) := offset rest
      return ({ clock with offset := micros }, rest)
    else none
  | [] => none

/-- The year, month and day of a date, whether or not it exists. -/
def calendar? (cs : List Char) : Option (Date × List Char) := do
  let (century, rest) ← pair? 99 cs
  let (year, rest) ← pair? 99 rest
  let (month, rest) ← pair? 12 (← expect? '-' rest)
  let (day, rest) ← pair? 31 (← expect? '-' rest)
  if month == 0 || day == 0 then none else return (⟨century * 100 + year, month, day⟩, rest)

/-- A date, perhaps with a time of day. -/
def date? (cs : List Char) : Option (Except Flaw (Value × List Char)) := do
  let (date, rest) ← calendar? cs
  if !date.isValid then some (.error .malformed)
  else
    match clockAfterDate? rest with
    | some (clock, rest) => some (.ok (.datetime date clock, rest))
    | none => some (.ok (.date date, rest))

def time? (cs : List Char) : Option (Except Flaw (Value × List Char)) :=
  (clock? cs).map fun r => .ok (.time r.1, r.2)

def special? (cs : List Char) : Option (Except Flaw (Value × List Char)) :=
  let (negative, body) := splitSign cs
  match body with
  | 'i' :: 'n' :: 'f' :: rest => some (.ok (.float (.infinite negative), rest))
  | 'n' :: 'a' :: 'n' :: rest => some (.ok (.float .nan, rest))
  | _ => none

/-- A number, a date or a time of day. -/
def scalar : Scan Value := fun cs =>
  (date? cs <|> time? cs <|> number? cs <|> special? cs).getD (.error .malformed)

end Formwright.Toml
