import Formwright.Markup.Html
import Formwright.Value.Entries
import Formwright.Words.Label

/-!
# Field errors

Errors recorded for a form are pairs of a key and an error. An error is a code, a pair of a code
and a detail, or anything else; each has a sentence, and none is refused for its shape. Only a
number too long to be written has none.

## Contents

* `Errors.select`, `Errors.selectPairs`: the errors under one key.
* `Errors.sentence`, `Errors.sentencesOf`: errors in words.
-/

namespace Formwright.Errors

open Text Words

/-- The errors recorded under a key, in order; nothing when no errors are known at all. -/
def select (errors : Option (List (String × Value))) (key : String) : Option (List Value) :=
  errors.map fun pairs => (pairs.filter (·.1 == key)).map (·.2)

/-- The errors recorded under a key, in order, where pairs and keys may be any values. -/
def selectPairs (key : Value) : List Value → Except Fault (List Value)
  | [] => .ok []
  | pair :: rest => do
    let (recorded, error) ← pair.pairParts
    if ← recorded.equals key then return error :: (← selectPairs key rest)
    else selectPairs key rest

def sentences : List (String × String) := [
  ("unique", "has already been taken"),
  ("invalid", "has to be valid"),
  ("format", "has incorrect format")]

/-- The place of a count in a sentence. -/
def countMark : String := "%\x7bcount\x7d"

/-- The count among the details of an error, if it is a whole number; zero otherwise. -/
def countText (details : List (Value × Value)) : String :=
  match Value.named? details "count" with
  | some (.int n) => toString n
  | some (.bool b) => Value.boolText b
  | _ => "0"

/-- A whole number, or a truth value in the place of one. -/
def wholeDetail? : Value → Option Int
  | .int n => some n
  | .bool b => some (if b then 1 else 0)
  | _ => none

def pairSentence? (code detail : Value) : Except Fault (Option Piece) :=
  match code.isText "too_short", wholeDetail? detail with
  | true, some n =>
    (writtenNumeral (n - 1)).map fun numeral => some (.text ("must be longer than " ++ numeral))
  | _, _ =>
    if code.isText "must_match" then .ok (some (.text ("must match " ++ humanize detail.toText)))
    else
      match code, detail with
      | .text s, .table details => .ok (some (.text (replaceAll countMark (countText details) s)))
      | .markup s, .table details =>
        .ok (some (.markup (replaceAll countMark (countText details) s)))
      | _, _ => .ok none

/-- An error in words: known codes have a sentence, other texts are their own, and some pairs have
one; everything else is shown in its quoted form. -/
def sentence (error : Value) : Except Fault Piece :=
  let other := Piece.text ("error: " ++ error.literal)
  match error with
  | .text s => .ok (.text ((sentences.lookup s).getD s))
  | .markup s => .ok (((sentences.lookup s).map Piece.text).getD (.markup s))
  | .tuple [code, detail] => (pairSentence? code detail).map (·.getD other)
  | _ => .ok other

def sentencesOf (errors : Value) : Except Fault (List Piece) := do
  (← errors.membersOrNone).mapM sentence

def ofPiece : Piece → Value
  | .text s => .text s
  | .markup s => .markup s

end Formwright.Errors
