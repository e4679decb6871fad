import Formwright.Text.Blank

/-!
# Reading whole numbers

A whole number in a text is an optional sign and decimal digits of any script, with single
underscores allowed between digits. `readWhole` also allows blanks around it. There is a limit on
the number of digits: a text with more is not taken for a number, and `numeral?` does not write
more.
-/

namespace Formwright.Text

/-- The zeros of the decimal digit runs; each is followed by the digits one to nine. -/
def digitZeros : List Nat := [
  0x30, 0x660, 0x6f0, 0x7c0, 0x966, 0x9e6, 0xa66, 0xae6, 0xb66, 0xbe6, 0xc66, 0xce6, 0xd66, 0xde6,
  0xe50, 0xed0, 0xf20, 0x1040, 0x1090, 0x17e0, 0x1810, 0x1946, 0x19d0, 0x1a80, 0x1a90, 0x1b50,
  0x1bb0, 0x1c40, 0x1c50, 0xa620, 0xa8d0, 0xa900, 0xa9d0, 0xa9f0, 0xaa50, 0xabf0, 0xff10, 0x104a0,
  0x10d30, 0x11066, 0x110f0, 0x11136, 0x111d0, 0x112f0, 0x11450, 0x114d0, 0x11650, 0x116c0,
  0x11730, 0x118e0, 0x11950, 0x11c50, 0x11d50, 0x11da0, 0x16a60, 0x16ac0, 0x16b50, 0x1d7ce,
  0x1d7d8, 0x1d7e2, 0x1d7ec, 0x1d7f6, 0x1e140, 0x1e2f0, 0x1e950, 0x1fbf0]

def digitValue? (c : Char) : Option Nat :=
  let n := c.toNat
  if n < 0x80 then if 0x30 ≤ n && n ≤ 0x39 then some (n - 0x30) else none
  else (digitZeros.find? fun z => z ≤ n && n < z + 10).map (n - ·)

def asciiDigitValue? (c : Char) : Option Nat :=
  if '0' ≤ c && c ≤ '9' then some (c.toNat - 0x30) else none

/-- The digit values of digits with single underscores between them; at least one digit. -/
def digitRun? (value? : Char → Option Nat) : List Char → Option (List Nat)
  | [] => none
  | [c] => (value? c).map ([·])
  | c :: '_' :: cs => return (← value? c) :: (← digitRun? value? cs)
  | c :: cs => return (← value? c) :: (← digitRun? value? cs)

/-- The number that digits, most significant first, stand for in a base. -/
def ofDigits (base : Nat) (ds : List Nat) : Nat := ds.foldl (fun n d => base * n + d) 0

/-- Splits off a sign; the flag says whether it is a minus. -/
def splitSign : List Char → Bool × List Char
  | '-' :: cs => (true, cs)
  | '+' :: cs => (false, cs)
  | cs => (false, cs)

def signed (negative : Bool) (n : Nat) : Int := if negative then -(n : Int) else n

/-- The largest number of digits that is read as a number or written for one. -/
def maxDigits : Nat := 4300

/-- The numeral of a whole number, unless it has too many digits. -/
def numeral? (n : Int) : Option String :=
  if n.natAbs < Nat.pow 10 maxDigits then some (toString n) else none

/-- The blanks allowed around a number: all but the ASCII separators. -/
def isNumberBlank (c : Char) : Bool := isBlank c && !(0x1c ≤ c.toNat && c.toNat ≤ 0x1f)

def readWhole (s : String) : Option Int := do
  let (negative, cs) := splitSign (trimBy isNumberBlank s.toList)
  let ds ← digitRun? digitValue? cs
  if ds.length ≤ maxDigits then some (signed negative (ofDigits 10 ds)) else none

end Formwright.Text
