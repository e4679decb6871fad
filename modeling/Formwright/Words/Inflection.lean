import Formwright.Text.Replace

/-!
# Plural and singular

English inflection of names such as `phone_number`: only the segment after the last underscore is
inflected. A table of irregular words comes first, then endings. Endings and table entries are
compared in lower case; the inflected word keeps the case of what it keeps of the word, and an
irregular form is capitalised when the word starts with a capital.

## Contents

* `irregularPlurals`: the table, singular first.
* `pluralSegment`, `singularSegment`: the rules for one word.
* `pluralize`, `singularize`: the rules for a name.
-/

namespace Formwright.Words

open Formwright.Text

/-- Irregular words: singular and plural. -/
def irregularPlurals : List (String × String) := [
  ("person", "people"), ("child", "children"), ("man", "men"), ("woman", "women"),
  ("foot", "feet"), ("tooth", "teeth"), ("goose", "geese"), ("mouse", "mice"), ("ox", "oxen"),
  ("datum", "data"), ("medium", "media"), ("criterion", "criteria"), ("index", "indices"),
  ("matrix", "matrices"), ("vertex", "vertices"), ("status", "statuses"),
  ("address", "addresses")]

def irregularPlural? (w : List Char) : Option (List Char) :=
  (irregularPlurals.find? fun e => e.1.toList == w).map (·.2.toList)

def irregularSingular? (w : List Char) : Option (List Char) :=
  (irregularPlurals.find? fun e => e.2.toList == w).map (·.1.toList)

/-- Gives a lower-case word a capital when the word it stands for has one. -/
def matchCase (word replacement : List Char) : List Char :=
  match word, replacement with
  | w :: _, r :: rs => if w.isUpper then r.toUpper :: rs else r :: rs
  | _, _ => replacement

def endsInAny (w : List Char) (endings : List String) : Bool :=
  endings.any fun e => endsWith w e.toList

def vowelBeforeLast (w : List Char) : Bool :=
  match w.reverse with
  | _ :: c :: _ => "aeiou".toList.contains c
  | _ => false

def pluralSegment (word : List Char) : List Char :=
  let low := word.map Char.toLower
  match irregularPlural? low with
  | some form => matchCase word form
  | none =>
    if endsInAny low ["s", "x", "z", "ch", "sh"] then word ++ ['e', 's']
    else if endsInAny low ["y"] then
      if vowelBeforeLast low then word ++ ['s'] else dropEnd 1 word ++ ['i', 'e', 's']
    else if endsInAny low ["fe"] then dropEnd 2 word ++ ['v', 'e', 's']
    else if endsInAny low ["elf", "alf", "olf", "eaf", "oaf", "arf"] then
      dropEnd 1 word ++ ['v', 'e', 's']
    else if endsInAny low ["hero", "potato", "tomato", "echo", "veto"] then word ++ ['e', 's']
    else word ++ ['s']

def singularSegment (word : List Char) : List Char :=
  let low := word.map Char.toLower
  match irregularSingular? low with
  | some form => matchCase word form
  | none =>
    if (irregularPlural? low).isSome || endsInAny low ["ss"] then word
    else if endsInAny low ["ies"] && 3 < word.length then dropEnd 3 word ++ ['y']
    else if endsInAny low ["ches", "shes", "xes", "zes"] then dropEnd 2 word
    else if endsInAny low ["s"] then dropEnd 1 word
    else word

/-- Inflects what follows the last underscore. -/
def inflectLast (inflect : List Char → List Char) (name : String) : String :=
  let (front, last) := cutLast '_' name.toList
  String.ofList (front ++ if last.isEmpty then [] else inflect last)

def pluralize (name : String) : String := inflectLast pluralSegment name

def singularize (name : String) : String := inflectLast singularSegment name

end Formwright.Words
