import Formwright.Calendar
import Formwright.Check.Rule

/-!
# A rule for dates

A date may also be given as a moment at midnight: a date with a time of day, a text of either, or a
count of seconds from the start of 1970. Counts beyond `2 * 10 ^ 10` are milliseconds. A moment at
another time of day is refused, because the time would be lost. Moments reach back to the start of
year 0, which has no dates.

## Contents

* `Moment`, `Moment.atMidnight`: a moment, and the date that it gives.
* `Moment.ofCount?`, `Moment.ofFloat?`: the moment of a count.
* `Moment.read?`: the moment of a text.
* `Rule.date`: the rule.
-/

namespace Formwright

/-- A date, perhaps of year 0, and the microseconds since its midnight. -/
structure Moment where
  day : Date
  microseconds : Nat
  deriving DecidableEq, Repr

namespace Moment

/-- A date and a time of day, whatever its offset from universal time. -/
def ofClock (d : Date) (t : Clock) : Moment := ⟨d, t.sinceMidnight⟩

def atMidnight (m : Moment) : Checked Date :=
  if m.microseconds != 0 then .fail .inexactDate
  else if m.day.year == 0 then .fail .yearZero
  else .good m.day

/-! ## Counts -/

def secondsBefore1970 : Nat := 62167219200

def lastSecond : Nat := 253402300799

/-- The count up to which the unit is a second. -/
def lastCountOfSeconds : Nat := 20000000000

/-- The moment some seconds and microseconds from the start of 1970, up to the end of 9999. -/
def ofSeconds? (seconds : Int) (microseconds : Nat) : Option Moment :=
  let seconds := seconds + (microseconds / 1000000 : Nat)
  if -(secondsBefore1970 : Int) ≤ seconds && seconds ≤ lastSecond then
    let n := (seconds + secondsBefore1970).toNat
    some ⟨Date.afterDays 0 (n / 86400), n % 86400 * 1000000 + microseconds % 1000000⟩
  else none

/-- The moment of a count, with microseconds on top. -/
def ofCount? (count : Int) (microseconds : Nat) : Option Moment :=
  if count.natAbs ≤ lastCountOfSeconds then ofSeconds? count microseconds
  else ofSeconds? (count / 1000) ((count % 1000).toNat * 1000 + microseconds)

/-- The whole seconds below a floating-point count whose unit may be a millisecond, and the
microseconds on top, rounded. -/
def wholeSeconds? : Binary64 → Option (Int × Nat)
  | .finite negative mantissa exponent =>
    let (num, den) := Binary64.ratio mantissa exponent
    let seconds :=
      if num > lastCountOfSeconds * den then Binary64.ofRatio negative num (den * 1000)
      else .finite negative mantissa exponent
    do
      let (whole, fraction) ← seconds.floor?
      return (whole, ← (fraction.times 1000000).nearestMagnitude?)
  | _ => none

def ofFloat? (x : Binary64) : Option Moment := do
  let (seconds, microseconds) ← wholeSeconds? x
  ofSeconds? seconds microseconds

/-! ## Texts -/

def afterColon? : List Char → Option (List Char)
  | ':' :: cs => some cs
  | _ => none

def readFraction? : List Char → Option (Nat × List Char)
  | [] => some (0, [])
  | mark :: cs =>
    if mark == '.' || mark == ',' then do
      let digits ← (cs.takeWhile Char.isDigit).mapM Text.asciiDigitValue?
      if digits.isEmpty then none
      else some (Clock.microseconds digits, cs.dropWhile Char.isDigit)
    else some (0, mark :: cs)

/-- Whether a text is an offset from universal time of less than a day, or nothing: `Z`, or a sign
with hours and minutes. -/
def isOffset : List Char → Bool
  | [] => true
  | sign :: cs =>
    if sign == 'Z' || sign == 'z' then cs.isEmpty
    else
      let reading := do
        let (hour, cs) ← Clock.twoDigits? cs
        let (minute, cs) ← Clock.twoDigits? ((afterColon? cs).getD cs)
        return (hour, minute, cs)
      match reading with
      | some (hour, minute, []) =>
        (sign == '+' || sign == '-' || sign == '\u2212') && hour < 24 && minute < 60
      | _ => false

/-- Reads a time of day: hours and minutes, perhaps seconds, perhaps a fraction of a second, and
perhaps an offset, which is dropped. -/
def readClock? (cs : List Char) : Option Clock := do
  let (hour, cs) ← Clock.twoDigits? cs
  let (minute, cs) ← Clock.twoDigits? (← afterColon? cs)
  let (second, microsecond, cs) ←
    match afterColon? cs with
    | none => some (0, 0, cs)
    | some cs => do
      let (second, cs) ← Clock.twoDigits? cs
      let (microsecond, cs) ← readFraction? cs
      some (second, microsecond, cs)
  let clock : Clock := ⟨hour, minute, second, microsecond, none⟩
  if clock.isValid && isOffset cs then some clock else none

/-- Reads a date, perhaps followed by a mark and a time of day. -/
def readIso? (cs : List Char) : Option Moment := do
  let day ← Date.readIso? (cs.take 10)
  if !day.hasMonthAndDay then none
  else
    match cs.drop 10 with
    | [] => some (ofClock day .midnight)
    | mark :: cs =>
      if mark == 'T' || mark == 't' || mark == ' ' || mark == '_' then
        (readClock? cs).map (ofClock day)
      else none

/-- The moment of a floating-point count in a text. Its seconds are a count again, so that the unit
of a very large one is a microsecond. -/
def ofFloatText? (x : Binary64) : Option Moment := do
  let (seconds, microseconds) ← wholeSeconds? x
  ofCount? seconds microseconds

/-- Reads a count: a whole number in digits, or a floating-point number. The latter has a point, and
only then may it have an exponent. -/
def readCount? (cs : List Char) : Option Moment :=
  let (negative, body) := Text.splitSign cs
  match body.mapM Text.asciiDigitValue? with
  | some (d :: ds) => ofCount? (Text.signed negative (Text.ofDigits 10 (d :: ds))) 0
  | _ =>
    if cs.contains '.' then do
      let n ← Numeral.read? cs
      ofFloatText? (.ofScaled n.negative n.coefficient n.exponent)
    else none

def read? (s : String) : Option Moment := readIso? s.toList <|> readCount? s.toList

end Moment

namespace Rule

/-- The date of a moment at midnight, if the moment could be read at all. -/
def dateOfMoment (m : Option Moment) : Checked Date :=
  m.elim (.fail .unreadableDate) Moment.atMidnight

/-- The date of a whole count. One beyond the floating-point range is no count. -/
def dateOfInt (n : Int) : Checked Date :=
  match Binary64.ofInt n with
  | .finite .. => dateOfMoment (if fitsWord n then Moment.ofCount? n 0 else none)
  | _ => .fail .notDate

/-- The date of a decimal count; a signalling one is no number. -/
def dateOfDecimal : Decimal → Checked Date
  | .finite negative coefficient exponent =>
    dateOfMoment (Moment.ofFloat? (.ofScaled negative coefficient exponent))
  | .nan _ true _ => .fail .notDate
  | _ => .fail .unreadableDate

def date : Rule Date
  | .date d => .good d
  | .datetime d t => (Moment.ofClock d t).atMidnight
  | .text s => dateOfMoment (Moment.read? s)
  | .markup s => dateOfMoment (Moment.read? s)
  | .int n => dateOfInt n
  | .float x => dateOfMoment (Moment.ofFloat? x)
  | .decimal x => dateOfDecimal x
  | _ => .fail .notDate

end Rule

end Formwright
