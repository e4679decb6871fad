import Formwright.Value.Basic

/-!
# Equality of values

Numbers are equal when they are the same quantity, whatever their kind (`1`, `True`, `1.0` and
`Decimal('1')` are all equal); marked up text equals the plain text of the same characters; moments
with a known offset from universal time are equal when they are the same moment; a table equals a
table with equal values under equal keys in any order. Computed values are never equal.

A signalling number cannot be compared with a number. `equal?` looks at members in order and stops
at the first difference, so it has no answer only if it meets such a comparison on the way.

## Contents

* `equal?`: the comparison.
* `same`: the values can be compared and are equal.
-/

namespace Formwright.Value

def quantity? : Value → Option Exact
  | .bool b => some (.ofInt (if b then 1 else 0))
  | .int n => some (.ofInt n)
  | .float x => x.quantity?
  | .decimal x => x.quantity?
  | _ => Option.none

def infinite? : Value → Option Bool
  | .float (.infinite negative) => some negative
  | .decimal (.infinite negative) => some negative
  | _ => Option.none

def isNumber : Value → Bool
  | .bool _ | .int _ | .float _ | .decimal _ => true
  | _ => false

/-- A missing number that signals when it is compared. -/
def isSignalling : Value → Bool
  | .decimal (.nan _ signalling _) => signalling
  | _ => false

/-- The second of a time of day in universal time, which may lie on the day before or after, and
the microsecond of the time itself. -/
def universalSecond? (t : Clock) : Option (Int × Nat) :=
  t.offset.map fun offset =>
    ((t.sinceMidnight / 1000000 : Nat) - offset.fdiv 1000000, t.microsecond)

/-- Times of day are equal when both or neither have an offset, and whole seconds of the offsets
are taken into account. -/
def sameClock (x y : Clock) : Bool :=
  match universalSecond? x, universalSecond? y with
  | some a, some b => a == b
  | Option.none, Option.none => x == y
  | _, _ => false

def dayMicroseconds : Nat := 86400000000

/-- Moments are equal when both or neither have an offset, and the offsets are taken into
account. -/
def sameMoment (d : Date) (t : Clock) (d' : Date) (t' : Clock) : Bool :=
  match t.universal?, t'.universal? with
  | some a, some b => d.dayNumber * dayMicroseconds + a == d'.dayNumber * dayMicroseconds + b
  | Option.none, Option.none => d == d' && t == t'
  | _, _ => false

/-- Equality of values without members that can be compared. -/
def sameAtom (a b : Value) : Bool :=
  match a.quantity?, b.quantity? with
  | some x, some y => x == y
  | _, _ =>
    match a.infinite?, b.infinite? with
    | some x, some y => x == y
    | _, _ =>
      match a, b with
      | .none, .none => true
      | .date x, .date y => x == y
      | .time x, .time y => sameClock x y
      | .datetime d t, .datetime d' t' => sameMoment d t d' t'
      | .zone x, .zone y => x == y
      | .step x, .step y => x == y
      | _, _ =>
        match a.string?, b.string? with
        | some x, some y => x == y
        | _, _ => false

def equalAtoms? (a b : Value) : Option Bool :=
  if a.isNumber && b.isNumber && (a.isSignalling || b.isSignalling) then Option.none
  else some (sameAtom a b)

mutual

/-- Whether the values are equal, if they can be compared. -/
def equal? : Value → Value → Option Bool
  | .list xs, b =>
    match b with
    | .list ys => if xs.length == ys.length then equalItems? xs ys else some false
    | _ => some false
  | .tuple xs, b =>
    match b with
    | .tuple ys => equalItems? xs ys
    | _ => some false
  | .table xs, b =>
    match b with
    | .table ys => if xs.length == ys.length then equalEntries? xs ys else some false
    | _ => some false
  | .object xs, b =>
    match b with
    | .object ys => if xs.length == ys.length then equalAttributes? xs ys else some false
    | _ => some false
  | a, b => equalAtoms? a b

def equalItems? : List Value → List Value → Option Bool
  | [], [] => some true
  | x :: xs, y :: ys => do if ← equal? x y then equalItems? xs ys else some false
  | _, _ => some false

/-- Every entry has an equal one among the others. -/
def equalEntries? : List (Value × Value) → List (Value × Value) → Option Bool
  | [], _ => some true
  | (k, v) :: rest, others =>
    match others.find? fun e => equal? k e.1 == some true with
    | some e => do if ← equal? v e.2 then equalEntries? rest others else some false
    | Option.none => some false

def equalAttributes? : List (String × Value) → List (String × Value) → Option Bool
  | [], _ => some true
  | (k, v) :: rest, others =>
    match others.find? fun e => k == e.1 with
    | some e => do if ← equal? v e.2 then equalAttributes? rest others else some false
    | Option.none => some false

end

/-- The values can be compared and are equal. -/
def same (a b : Value) : Bool := equal? a b == some true

end Formwright.Value
