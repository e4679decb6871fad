import Formwright.Text.Digits

/-!
# Decimal numbers

A decimal number keeps its coefficient and exponent apart, so `1.50` and `1.5` are two numerals of
one quantity. `Decimal.text` writes the numeral; it is positional unless the exponent is positive or
the number is below `10 ^ (-6)`. `Exact` is the quantity alone, in a form in which equal quantities
are equal values.
-/

namespace Formwright

/-- A decimal numeral, an infinity, or a missing number. -/
inductive Decimal where
  /-- `coefficient * 10 ^ exponent` with a sign. -/
  | finite (negative : Bool) (coefficient : Nat) (exponent : Int)
  | infinite (negative : Bool)
  | nan (negative signalling : Bool) (payload : Option Nat)
  deriving DecidableEq, Repr

/-- A quantity `coefficient * 10 ^ exponent`; zero or a coefficient that ten does not divide. -/
structure Exact where
  negative : Bool
  coefficient : Nat
  exponent : Int
  deriving DecidableEq, Repr

namespace Exact

/-- Moves factors of ten into the exponent, at most `fuel` of them. -/
def shed : Nat → Nat → Int → Nat × Int
  | 0, c, e => (c, e)
  | fuel + 1, c, e => if c % 10 == 0 then shed fuel (c / 10) (e + 1) else (c, e)

def ofScaled (negative : Bool) (coefficient : Nat) (exponent : Int) : Exact :=
  if coefficient == 0 then ⟨false, 0, 0⟩
  else
    let (c, e) := shed coefficient.log2 coefficient exponent
    ⟨negative, c, e⟩

def ofInt (n : Int) : Exact := ofScaled (n < 0) n.natAbs 0

/-- The quantity is below a count. Exponents that settle the question are never raised to a
power. -/
def isBelow (q : Exact) (count : Nat) : Bool :=
  if q.negative then true
  else if q.exponent > count.log2 then false
  else if q.exponent ≥ 0 then q.coefficient * Nat.pow 10 q.exponent.toNat < count
  else if -q.exponent > q.coefficient.log2 then 0 < count
  else q.coefficient < count * Nat.pow 10 (-q.exponent).toNat

end Exact

def zeroDigits (n : Nat) : String := String.ofList (List.replicate n '0')

namespace Decimal

/-- Places a decimal point `place` digits into the digits, padding with zeros on either side. -/
def withPoint (digits : List Char) (place : Int) : String :=
  if place ≤ 0 then "0." ++ zeroDigits (-place).toNat ++ String.ofList digits
  else if place.toNat < digits.length then
    String.ofList (digits.take place.toNat) ++ "." ++ String.ofList (digits.drop place.toNat)
  else String.ofList digits ++ zeroDigits (place.toNat - digits.length)

def signText (negative : Bool) : String := if negative then "-" else ""

def explicitSign (n : Int) : String := if n < 0 then toString n else "+" ++ toString n

def text : Decimal → String
  | .infinite negative => signText negative ++ "Infinity"
  | .nan negative signalling payload =>
    signText negative ++ (if signalling then "sNaN" else "NaN") ++
      match payload with
      | some p => toString p
      | none => ""
  | .finite negative coefficient exponent =>
    let digits := (toString coefficient).toList
    let left := exponent + digits.length
    signText negative ++
      if exponent ≤ 0 && left > -6 then withPoint digits left
      else withPoint digits 1 ++ (if left == 1 then "" else "E" ++ explicitSign (left - 1))

def isTrue : Decimal → Bool
  | .finite _ coefficient _ => coefficient != 0
  | _ => true

def truncate? : Decimal → Option Int
  | .finite negative coefficient exponent =>
    let magnitude :=
      if exponent ≥ 0 then coefficient * Nat.pow 10 exponent.toNat
      else coefficient / Nat.pow 10 (-exponent).toNat
    some (Text.signed negative magnitude)
  | _ => none

def quantity? : Decimal → Option Exact
  | .finite negative coefficient exponent => some (.ofScaled negative coefficient exponent)
  | _ => none

end Decimal

/-! ## Reading numerals -/

/-- The parts of a numeral `[sign] digits [. digits] [e [sign] digits]`. -/
structure Numeral where
  negative : Bool
  coefficient : Nat
  exponent : Int

def Numeral.readExponent : List Char → Option Int
  | [] => some 0
  | mark :: cs =>
    if mark == 'e' || mark == 'E' then
      let (negative, ds) := Text.splitSign cs
      if ds.isEmpty then none
      else return Text.signed negative (Text.ofDigits 10 (← ds.mapM Text.asciiDigitValue?))
    else none

def Numeral.read? (cs : List Char) : Option Numeral := do
  let (negative, body) := Text.splitSign cs
  let whole := body.takeWhile Char.isDigit
  let rest := body.dropWhile Char.isDigit
  let (fraction, tail) :=
    match rest with
    | '.' :: more => (more.takeWhile Char.isDigit, more.dropWhile Char.isDigit)
    | _ => ([], rest)
  if whole.isEmpty && fraction.isEmpty then none
  else
    let digits ← (whole ++ fraction).mapM Text.asciiDigitValue?
    return ⟨negative, Text.ofDigits 10 digits, (← readExponent tail) - fraction.length⟩

def Decimal.read? (s : String) : Option Decimal :=
  let (negative, body) := Text.splitSign s.toList
  let payload? (ds : List Char) : Option (Option Nat) :=
    if ds.isEmpty then some none
    else (ds.mapM Text.asciiDigitValue?).map fun ds => some (Text.ofDigits 10 ds)
  match body with
  | 'I' :: 'n' :: 'f' :: _ => some (.infinite negative)
  | 'N' :: 'a' :: 'N' :: ds => (payload? ds).map (.nan negative false)
  | 's' :: 'N' :: 'a' :: 'N' :: ds => (payload? ds).map (.nan negative true)
  | _ => (Numeral.read? s.toList).map fun n => .finite n.negative n.coefficient n.exponent

end Formwright
