import Formwright.Text.Digits
import Formwright.Text.Replace

/-!
# Dates and times of day

Calendar dates, times of day with an optional offset from universal time, and the texts they are
written as: the ISO form (`2024-01-02`, `09:05:00`, `.000250` for microseconds, `+02:00` for an
offset) and the constructor form used when a value is quoted in a message.
-/

namespace Formwright

structure Date where
  year : Nat
  month : Nat
  day : Nat
  deriving DecidableEq, Repr

/-- A time of day, with an offset from universal time in microseconds if it has one. -/
structure Clock where
  hour : Nat
  minute : Nat
  second : Nat
  microsecond : Nat
  offset : Option Int
  deriving DecidableEq, Repr

def padded (width n : Nat) : String :=
  let digits := toString n
  String.ofList (List.replicate (width - digits.length) '0') ++ digits

namespace Date

def isLeapYear (year : Nat) : Bool := year % 4 == 0 && (year % 100 != 0 || year % 400 == 0)

def daysInMonth (year month : Nat) : Nat :=
  if month == 2 then if isLeapYear year then 29 else 28
  else if month == 4 || month == 6 || month == 9 || month == 11 then 30
  else 31

def hasMonthAndDay (d : Date) : Bool :=
  1 ≤ d.month && d.month ≤ 12 && 1 ≤ d.day && d.day ≤ daysInMonth d.year d.month

/-- The date exists, in a year from 1 to 9999. -/
def isValid (d : Date) : Bool := 1 ≤ d.year && d.year ≤ 9999 && d.hasMonthAndDay

def first : Date := ⟨1, 1, 1⟩

def last : Date := ⟨9999, 12, 31⟩

/-- Takes whole lengths off a count as long as they fit: how many were taken, and what is left. -/
def takeLengths : List Nat → Nat → Nat × Nat
  | [], n => (0, n)
  | length :: rest, n =>
    if n < length then (0, n)
    else
      let (taken, left) := takeLengths rest (n - length)
      (taken + 1, left)

def daysInYear (year : Nat) : Nat := if isLeapYear year then 366 else 365

/-- The length of 400 years, after which the calendar repeats. -/
def daysInCycle : Nat := 146097

/-- The date a number of days after the first day of a year. The year is one that 400 divides. -/
def afterDays (base days : Nat) : Date :=
  let start := base + 400 * (days / daysInCycle)
  let (years, rest) :=
    takeLengths ((List.range 400).map fun i => daysInYear (start + i)) (days % daysInCycle)
  let year := start + years
  let (months, rest) := takeLengths ((List.range 12).map fun i => daysInMonth year (i + 1)) rest
  ⟨year, months + 1, rest + 1⟩

/-- The days before a year, counted from the first day of year 0. -/
def daysBeforeYear (year : Nat) : Nat :=
  365 * year + (year + 3) / 4 - (year + 99) / 100 + (year + 399) / 400

/-- The days before a date, counted from the first day of year 0. -/
def dayNumber (d : Date) : Nat :=
  let daysBeforeMonth :=
    (List.range (d.month - 1)).foldl (fun days i => days + daysInMonth d.year (i + 1)) 0
  daysBeforeYear d.year + daysBeforeMonth + (d.day - 1)

def iso (d : Date) : String := padded 4 d.year ++ "-" ++ padded 2 d.month ++ "-" ++ padded 2 d.day

def arguments (d : Date) : List Nat := [d.year, d.month, d.day]

end Date

namespace Clock

def isValid (t : Clock) : Bool :=
  t.hour < 24 && t.minute < 60 && t.second < 60 && t.microsecond < 1000000
    && match t.offset with
      | none => true
      | some offset => offset.natAbs < 86400 * 1000000

def midnight : Clock := ⟨0, 0, 0, 0, none⟩

def last : Clock := ⟨23, 59, 59, 999999, none⟩

def sinceMidnight (t : Clock) : Nat :=
  (t.hour * 3600 + t.minute * 60 + t.second) * 1000000 + t.microsecond

/-- The microseconds since midnight in universal time, if the offset is known. -/
def universal? (t : Clock) : Option Int :=
  t.offset.map fun offset => (t.sinceMidnight : Int) - offset

/-- Hours and minutes of an offset, then seconds if it has any, then microseconds. -/
def offsetIso (offset : Int) : String :=
  let seconds := offset.natAbs / 1000000
  let micros := offset.natAbs % 1000000
  let clock := (if offset < 0 then "-" else "+") ++ padded 2 (seconds / 3600) ++ ":"
    ++ padded 2 (seconds / 60 % 60)
  if micros != 0 then clock ++ ":" ++ padded 2 (seconds % 60) ++ "." ++ padded 6 micros
  else if seconds % 60 != 0 then clock ++ ":" ++ padded 2 (seconds % 60)
  else clock

def iso (t : Clock) : String :=
  padded 2 t.hour ++ ":" ++ padded 2 t.minute ++ ":" ++ padded 2 t.second
    ++ (if t.microsecond == 0 then "" else "." ++ padded 6 t.microsecond)
    ++ match t.offset with
      | none => ""
      | some offset => offsetIso offset

/-- The arguments of the constructor form: seconds and microseconds only where needed. -/
def arguments (t : Clock) : List Nat :=
  if t.microsecond != 0 then [t.hour, t.minute, t.second, t.microsecond]
  else if t.second != 0 then [t.hour, t.minute, t.second]
  else [t.hour, t.minute]

def zoneText (offset : Int) : String := if offset == 0 then "UTC" else "UTC" ++ offsetIso offset

/-- The constructor form of an offset: the seconds and microseconds that it has, counted from the
day before if it is negative. -/
def offsetLiteral (offset : Int) : String :=
  if offset == 0 then "datetime.timezone.utc"
  else
    let n := (offset % (86400 * 1000000)).toNat
    let part (name : String) (k : Nat) : List String :=
      if k == 0 then [] else [name ++ "=" ++ toString k]
    let parts := (if offset < 0 then ["days=-1"] else []) ++ part "seconds" (n / 1000000)
      ++ part "microseconds" (n % 1000000)
    "datetime.timezone(datetime.timedelta(" ++ Text.joinWith ", " parts ++ "))"

end Clock

/-- The least difference between two dates or two times. -/
inductive TimeStep where
  | day
  | microsecond
  deriving DecidableEq, Repr

namespace TimeStep

def text : TimeStep → String
  | .day => "1 day, 0:00:00"
  | .microsecond => "0:00:00.000001"

def literal : TimeStep → String
  | .day => "datetime.timedelta(days=1)"
  | .microsecond => "datetime.timedelta(microseconds=1)"

end TimeStep

/-- Reads the ISO form of a date, without asking whether the date exists. -/
def Date.readIso? (cs : List Char) : Option Date :=
  match cs with
  | [y1, y2, y3, y4, '-', m1, m2, '-', d1, d2] => do
    let number (ds : List Char) : Option Nat := do
      return Text.ofDigits 10 (← ds.mapM Text.asciiDigitValue?)
    return ⟨← number [y1, y2, y3, y4], ← number [m1, m2], ← number [d1, d2]⟩
  | _ => none

namespace Clock

def twoDigits? : List Char → Option (Nat × List Char)
  | a :: b :: rest =>
    return (Text.ofDigits 10 [← Text.asciiDigitValue? a, ← Text.asciiDigitValue? b], rest)
  | _ => none

/-- Reads `hh:mm` or `hh:mm:ss`: the seconds from midnight, and what follows. -/
def readClock? (cs : List Char) : Option ((Nat × Nat × Nat) × List Char) := do
  let (hour, rest) ← twoDigits? cs
  match rest with
  | ':' :: rest =>
    let (minute, rest) ← twoDigits? rest
    match rest with
    | ':' :: rest =>
      let (second, rest) ← twoDigits? rest
      return ((hour, minute, second), rest)
    | _ => return ((hour, minute, 0), rest)
  | _ => none

/-- The microseconds of a fraction of a second; digits after the sixth are dropped. -/
def microseconds (ds : List Nat) : Nat :=
  Text.ofDigits 10 ((ds ++ List.replicate 6 0).take 6)

def readFraction? : List Char → Option (Nat × List Char)
  | '.' :: cs => do
    let digits ← (cs.takeWhile Char.isDigit).mapM Text.asciiDigitValue?
    return (microseconds digits, cs.dropWhile Char.isDigit)
  | cs => some (0, cs)

/-- Reads an offset: `Z`, or a sign and a clock reading. -/
def readOffset? : List Char → Option (Option Int)
  | [] => some none
  | ['Z'] => some (some 0)
  | sign :: cs =>
    if sign == '+' || sign == '-' then do
      let ((hour, minute, second), rest) ← readClock? cs
      let (micros, rest) ← readFraction? rest
      if rest.isEmpty then
        let seconds := hour * 3600 + minute * 60 + second
        some (some (Text.signed (sign == '-') (seconds * 1000000 + micros)))
      else none
    else none

/-- Reads the ISO form of a time of day, without asking whether the time exists. -/
def readIso? (cs : List Char) : Option Clock := do
  let ((hour, minute, second), rest) ← readClock? cs
  let (micros, rest) ← readFraction? rest
  return ⟨hour, minute, second, micros, ← readOffset? rest⟩

end Clock

end Formwright
