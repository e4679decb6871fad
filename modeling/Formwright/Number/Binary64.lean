import Formwright.Number.Decimal

/-!
# Binary floating-point numbers

Numbers of the 64-bit binary format as exact data: a mantissa of at most 53 bits and a binary
exponent of at least -1074. `ofRatio` rounds a quotient to the nearest such number, a tie to the
even mantissa. `text` writes the fewest digits that read back as the number, and of those the
nearest to it: positional from `0.0001` up to below `10 ^ 16`, with an exponent of at least two
digits otherwise.
-/

namespace Formwright

/-- A number of the 64-bit binary format. -/
inductive Binary64 where
  | nan
  | infinite (negative : Bool)
  /-- `mantissa * 2 ^ exponent` with a sign. -/
  | finite (negative : Bool) (mantissa : Nat) (exponent : Int)
  deriving DecidableEq, Repr

namespace Binary64

def minExponent : Int := -1074

/-- The largest binary exponent of a 53-bit mantissa. -/
def maxExponent : Int := 971

/-- The quotient rounded to the nearest whole number, a tie to the even one. -/
def roundQuotient (num den : Nat) : Nat :=
  let q := num / den
  let r := num % den
  if 2 * r < den then q
  else if 2 * r == den then q + q % 2
  else q + 1

/-- The number nearest to `num / den`. -/
def ofRatio (negative : Bool) (num den : Nat) : Binary64 :=
  if num == 0 then .finite negative 0 minExponent
  else
    let estimate : Int := (num.log2 : Int) - den.log2 - 53
    let scaled (e : Int) : Nat × Nat :=
      if e ≥ 0 then (num, den * Nat.pow 2 e.toNat) else (num * Nat.pow 2 (-e).toNat, den)
    let fits (e : Int) : Bool := (scaled e).1 / (scaled e).2 < Nat.pow 2 53
    let exponent := max minExponent (if fits estimate then estimate else estimate + 1)
    let mantissa := roundQuotient (scaled exponent).1 (scaled exponent).2
    let (mantissa, exponent) :=
      if mantissa == Nat.pow 2 53 then (Nat.pow 2 52, exponent + 1) else (mantissa, exponent)
    if exponent > maxExponent then .infinite negative else .finite negative mantissa exponent

/-- The number nearest to `coefficient * 10 ^ exponent`. -/
def ofScaled (negative : Bool) (coefficient : Nat) (exponent : Int) : Binary64 :=
  if exponent ≥ 0 then
    -- beyond these exponents every coefficient but zero is out of range
    if exponent > 400 then
      if coefficient == 0 then .finite negative 0 minExponent else .infinite negative
    else ofRatio negative (coefficient * Nat.pow 10 exponent.toNat) 1
  else if exponent < -400 - (coefficient.log2 : Int) then .finite negative 0 minExponent
  else ofRatio negative coefficient (Nat.pow 10 (-exponent).toNat)

def ofInt (n : Int) : Binary64 := ofRatio (n < 0) n.natAbs 1

/-! ## Shortest digits -/

def ratio (mantissa : Nat) (exponent : Int) : Nat × Nat :=
  if exponent ≥ 0 then (mantissa * Nat.pow 2 exponent.toNat, 1)
  else (mantissa, Nat.pow 2 (-exponent).toNat)

def digitCount (n : Nat) : Nat := (Nat.toDigits 10 n).length

/-- The place of the decimal point: the least `k` with `num / den < 10 ^ k`, if `num` is
positive. -/
def pointPlace (num den : Nat) : Int :=
  let guess : Int := (digitCount num : Int) - digitCount den
  let below :=
    if guess ≥ 0 then num < den * Nat.pow 10 guess.toNat else num * Nat.pow 10 (-guess).toNat < den
  if below then guess else guess + 1

/-- Of the two neighbours of the number among the numerals of `count` digits, one that reads back
as the number; the nearer one if both do. -/
def neighbour? (mantissa : Nat) (exponent : Int) (count : Nat) : Option (Nat × Int) :=
  let (num, den) := ratio mantissa exponent
  let grid : Int := pointPlace num den - count
  let (n, d) :=
    if grid ≥ 0 then (num, den * Nat.pow 10 grid.toNat) else (num * Nat.pow 10 (-grid).toNat, den)
  let low := n / d
  let readsBack (c : Nat) : Bool := ofScaled false c grid == .finite false mantissa exponent
  let nearest := roundQuotient n d
  let other := if nearest == low then low + 1 else low
  if readsBack nearest then some (nearest, grid)
  else if readsBack other then some (other, grid)
  else none

/-- The fewest digits that read back, trying `tries` counts from `count` up. -/
def shortestFrom (mantissa : Nat) (exponent : Int) : Nat → Nat → Nat × Int
  | 0, _ => (mantissa, 0)
  | tries + 1, count =>
    (neighbour? mantissa exponent count).getD (shortestFrom mantissa exponent tries (count + 1))

/-- The shortest numeral of a magnitude: coefficient and decimal exponent. -/
def shortest (mantissa : Nat) (exponent : Int) : Nat × Int := shortestFrom mantissa exponent 17 1

/-- An exponent with its sign and at least two digits. -/
def exponentText (n : Int) : String :=
  let digits := toString n.natAbs
  (if n < 0 then "-" else "+") ++ (if n.natAbs < 10 then "0" ++ digits else digits)

/-- The numeral of digits whose decimal point stands `place` digits in. -/
def layout (digits : List Char) (place : Int) : String :=
  if -4 < place && place ≤ 16 then
    let body := Decimal.withPoint digits place
    if digits.length ≤ place then body ++ ".0" else body
  else
    let body := if digits.length == 1 then String.ofList digits else Decimal.withPoint digits 1
    body ++ "e" ++ exponentText (place - 1)

def text : Binary64 → String
  | .nan => "nan"
  | .infinite negative => Decimal.signText negative ++ "inf"
  | .finite negative mantissa exponent =>
    Decimal.signText negative ++
      if mantissa == 0 then "0.0"
      else
        let (c, e) := shortest mantissa exponent
        let q := Exact.ofScaled false c e
        let digits := Nat.toDigits 10 q.coefficient
        layout digits (q.exponent + digits.length)

/-! ## Numbers as values -/

/-- A missing number or a number other than zero counts as true. -/
def isTrue : Binary64 → Bool
  | .finite _ mantissa _ => mantissa != 0
  | _ => true

def truncate? : Binary64 → Option Int
  | .finite negative mantissa exponent =>
    let (num, den) := ratio mantissa exponent
    some (Text.signed negative (num / den))
  | _ => none

/-- The greatest whole number up to a finite number, and what the number has on top of it, rounded
where it is not a number of the format. -/
def floor? : Binary64 → Option (Int × Binary64)
  | .finite negative mantissa exponent =>
    let (num, den) := ratio mantissa exponent
    let rest := num % den
    if rest == 0 then some (Text.signed negative (num / den), ofRatio false 0 1)
    else if negative then some (-((num / den : Nat) + 1 : Int), ofRatio false (den - rest) den)
    else some ((num / den : Nat), ofRatio false rest den)
  | _ => none

def times (n : Nat) : Binary64 → Binary64
  | .finite negative mantissa exponent =>
    let (num, den) := ratio mantissa exponent
    ofRatio negative (n * num) den
  | x => x

/-- The whole number nearest to the magnitude of a finite number; a half goes up. -/
def nearestMagnitude? : Binary64 → Option Nat
  | .finite _ mantissa exponent =>
    let (num, den) := ratio mantissa exponent
    some ((2 * num + den) / (2 * den))
  | _ => none

def isWhole : Binary64 → Bool
  | .finite _ mantissa exponent =>
    let (num, den) := ratio mantissa exponent
    num % den == 0
  | _ => false

def quantity? : Binary64 → Option Exact
  | .finite negative mantissa exponent =>
    if exponent ≥ 0 then some (.ofScaled negative (mantissa * Nat.pow 2 exponent.toNat) 0)
    else some (.ofScaled negative (mantissa * Nat.pow 5 (-exponent).toNat) exponent)
  | _ => none

/-- Reads a numeral, `nan`, or `inf` with an optional sign. -/
def read? (s : String) : Option Binary64 :=
  let (negative, body) := Text.splitSign s.toList
  if body == ['n', 'a', 'n'] then some .nan
  else if body == ['i', 'n', 'f'] then some (.infinite negative)
  else (Numeral.read? s.toList).map fun n => ofScaled n.negative n.coefficient n.exponent

end Binary64

end Formwright
