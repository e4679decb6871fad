import Formwright.Check.Basic
import Formwright.Text.Case
import Formwright.Value.Access
import Formwright.Value.Text

/-!
# Rules for values

What is accepted where a field of a given type is checked. Rules are lenient where no meaning is
lost: a truth value may be given as `0`, `1` or a word such as `yes`, a whole number as a text of
digits or a number without fraction, and lists and tuples stand in for each other. A text is never
made from another kind of value.
-/

namespace Formwright

/-- A check of one value. -/
abbrev Rule (α : Type) := Value → Checked α

namespace Rule

variable {α : Type}

def any : Rule Value := .good

/-- A text; marks are dropped. -/
def text : Rule String
  | .text s => .good s
  | .markup s => .good s
  | _ => .fail .notText

def optional (rule : Rule α) : Rule (Option α)
  | .none => .good none
  | v => (rule v).map some

/-! ## Truth values -/

def trueWords : List String := ["1", "on", "t", "true", "y", "yes"]

def falseWords : List String := ["0", "off", "f", "false", "n", "no"]

/-- The whole numbers of 64 bits with a sign. -/
def fitsWord (n : Int) : Bool := -(Nat.pow 2 63 : Int) ≤ n && n < (Nat.pow 2 63 : Int)

def truthOfInt (n : Int) : Checked Bool :=
  if n == 0 then .good false
  else if n == 1 then .good true
  else if fitsWord n then .fail .unreadableTruth
  else .fail .notTruth

def truthOfText (s : String) : Checked Bool :=
  let word := String.ofList (s.toList.map Char.toLower)
  if trueWords.contains word then .good true
  else if falseWords.contains word then .good false
  else .fail .unreadableTruth

/-- The whole number strictly between the bounds of 64 bits that a floating-point number is. -/
def wordOfFloat (x : Binary64) : Checked Int :=
  match x.truncate? with
  | none => .fail .notFinite
  | some n =>
    if !x.isWhole then .fail .fractional
    else if n.natAbs < Nat.pow 2 63 then .good n
    else .fail .unboundedWhole

def truthOfFloat (x : Binary64) : Checked Bool :=
  match wordOfFloat x with
  | .good n => truthOfInt n
  | .bad _ => .fail .notTruth

/-- A truth value given as a decimal number, which is rounded first. -/
def truthOfDecimal : Decimal → Checked Bool
  | .finite negative coefficient exponent => truthOfFloat (.ofScaled negative coefficient exponent)
  | _ => .fail .notTruth

def truth : Rule Bool
  | .bool b => .good b
  | .int n => truthOfInt n
  | .float x => truthOfFloat x
  | .decimal x => truthOfDecimal x
  | .text s => truthOfText s
  | .markup s => truthOfText s
  | _ => .fail .notTruth

/-! ## Whole numbers -/

/-- Drops the zeros before a number, with underscores among them. Of nothing but these the last
character is left, and so is the one before a point. -/
def dropZeros (cs : List Char) : List Char :=
  let zeros := if cs.head? == some '0' then cs.takeWhile fun c => c == '0' || c == '_' else []
  match cs.drop zeros.length with
  | [] => zeros.getLast?.toList
  | '.' :: fraction => zeros.getLast?.toList ++ '.' :: fraction
  | number => number

def dropZeroFraction (cs : List Char) : List Char :=
  match cs.dropWhile (· != '.') with
  | '.' :: '0' :: zeros => if zeros.all (· == '0') then cs.takeWhile (· != '.') else cs
  | _ => cs

/-- A whole number in ASCII digits with single underscores between them, perhaps with a fraction of
zeros. A zero may not come before other digits, and there may not be too many of them. -/
def wholeOfDigits (negative : Bool) (cs : List Char) : Checked Int :=
  match Text.digitRun? Text.asciiDigitValue? (dropZeroFraction cs) with
  | none => .fail .unreadableWhole
  | some ds =>
    if ds.head? == some 0 && ds.length > 1 then .fail .unreadableWhole
    else if ds.length > Text.maxDigits then .fail .unboundedWhole
    else .good (Text.signed negative (Text.ofDigits 10 ds))

/-- A whole number given as a text. Without a minus, zeros may come before it. -/
def wholeOfText (s : String) : Checked Int :=
  match Text.trimBy Text.isNumberBlank s.toList with
  | '-' :: cs => wholeOfDigits true cs
  | '+' :: cs => wholeOfDigits false (dropZeros cs)
  | cs => wholeOfDigits false (dropZeros cs)

/-- A whole number given as a decimal number of any size. -/
def wholeOfDecimal (x : Decimal) : Checked Int :=
  match x.quantity?, x.truncate? with
  | some q, some n => if q.exponent < 0 then .fail .fractional else .good n
  | _, _ => .fail .notFinite

def whole : Rule Int
  | .bool b => .good (if b then 1 else 0)
  | .int n => .good n
  | .float x => wordOfFloat x
  | .decimal x => wholeOfDecimal x
  | .text s => wholeOfText s
  | .markup s => wholeOfText s
  | _ => .fail .notWhole

def wholeAtLeast (least : Int) : Rule Int := fun v =>
  (whole v).andThen fun n => if n < least then .fail .below else .good n

def wholeAbove (bound : Int) : Rule Int := fun v =>
  (whole v).andThen fun n => if n ≤ bound then .fail .notAbove else .good n

/-! ## Members -/

def members? : Value → Option (List Value)
  | .list items => some items
  | .tuple items => some items
  | _ => none

/-- Checks members, each under its position. -/
def numbered (rule : Rule α) (items : List Value) : Checked (List α) :=
  .all (items.mapIdx fun i v => (rule v).under (toString i))

def listOf (rule : Rule α) : Rule (List α) := fun v =>
  match members? v with
  | some items => numbered rule items
  | none => .fail .notList

def tupleOf (rule : Rule α) : Rule (List α) := fun v =>
  match members? v with
  | some items => numbered rule items
  | none => .fail .notTuple

def setOf (rule : Rule α) : Rule (List α) := fun v =>
  match members? v with
  | some items => numbered rule items
  | none => .fail .notSet

def pair {α β : Type} (first : Rule α) (second : Rule β) : Rule (α × β) := fun v =>
  match members? v with
  | none => .fail .notTuple
  | some [] => Prod.mk <$> (Checked.fail .missing).under "0" <*> (Checked.fail .missing).under "1"
  | some [a] => Prod.mk <$> (first a).under "0" <*> (Checked.fail .missing).under "1"
  | some [a, b] => Prod.mk <$> (first a).under "0" <*> (second b).under "1"
  | some _ => .fail .tooLong

/-- How a key is written in a location. -/
def keyStep : Value → String
  | .text s => s
  | .markup s => s
  | .bool b => if b then "1" else "0"
  | v => v.literal

def entry (rule : Rule α) (e : Value × Value) : Checked (String × α) :=
  Prod.mk <$> ((text e.1).under "[key]").under (keyStep e.1) <*> (rule e.2).under (keyStep e.1)

def tableOf (rule : Rule α) : Rule (List (String × α)) := fun v =>
  match v.table? with
  | some entries => .all (entries.map (entry rule))
  | none => .fail .notTable

def oneOf (words : List (String × α)) : Rule α := fun v =>
  match v.string? >>= (words.lookup ·) with
  | some a => .good a
  | none => .fail .notMember

/-! ## Fields of records -/

def required (entries : List (String × Value)) (name : String) (rule : Rule α) : Checked α :=
  ((entries.lookup name).elim (.fail .missing) rule).under name

def withDefault (entries : List (String × Value)) (name : String) (rule : Rule α) (fallback : α) :
    Checked α :=
  match entries.lookup name with
  | some v => (rule v).under name
  | none => .good fallback

def textEntries (entries : List (Value × Value)) : List (String × Value) :=
  entries.filterMap fun e => e.1.string?.map (·, e.2)

/-- A record given as a table; keys that are no texts are passed over. -/
def record (fields : List (String × Value) → Checked α) : Rule α := fun v =>
  match v.table? with
  | some entries => fields (textEntries entries)
  | none => .fail .notModel

end Rule

end Formwright
