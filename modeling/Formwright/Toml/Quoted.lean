/-!
# Texts and keys in TOML

Quoted texts with and without escapes, on one line or several, and keys, which are bare words or
quoted texts. Scanners take the characters that are left and give what they read with what is left
after it.

## Contents

* `Flaw`, `Scan`: why a document is refused, and the type of scanners.
* `basicString`, `literalString`: quoted texts.
* `key`: keys of one or more parts.
-/

namespace Formwright.Toml

/-- Why a document is refused. -/
inductive Flaw where
  | malformed
  /-- A whole number of more digits than are read. -/
  | longNumeral
  deriving DecidableEq, Repr

/-- A scanner: what it reads from the start of the characters, and the characters after it. -/
abbrev Scan (α : Type) := List Char → Except Flaw (α × List Char)

def isSpace (c : Char) : Bool := c == ' ' || c == '\t'

def isSpaceOrBreak (c : Char) : Bool := isSpace c || c == '\n'

def skipSpaces (cs : List Char) : List Char := cs.dropWhile isSpace

/-- A control character other than the tab. -/
def isControl (c : Char) : Bool := (c.toNat < 32 && c != '\t') || c.toNat == 127

/-- A character that may not stand in a quoted text of one line or of several. -/
def isIllegal (multiline : Bool) (c : Char) : Bool :=
  isControl c && !(multiline && c == '\n')

def hexValue? (c : Char) : Option Nat :=
  if '0' ≤ c && c ≤ '9' then some (c.toNat - '0'.toNat)
  else if 'a' ≤ c && c ≤ 'f' then some (c.toNat - 'a'.toNat + 10)
  else if 'A' ≤ c && c ≤ 'F' then some (c.toNat - 'A'.toNat + 10)
  else none

def hexChar (digits : List Char) : Except Flaw Char :=
  match digits.mapM hexValue? with
  | some values =>
    let n := values.foldl (fun n d => 16 * n + d) 0
    if n.isValidChar then .ok (Char.ofNat n) else .error .malformed
  | none => .error .malformed

/-- The character that a letter after a backslash stands for. -/
def escaped? : Char → Option Char
  | 'b' => some (Char.ofNat 8)
  | 't' => some '\t'
  | 'n' => some '\n'
  | 'f' => some (Char.ofNat 12)
  | 'r' => some '\r'
  | '"' => some '"'
  | '\\' => some '\\'
  | _ => none

def consTo (c : Char) (r : Except Flaw (List Char × List Char)) :
    Except Flaw (List Char × List Char) :=
  r.map fun p => (c :: p.1, p.2)

/-- What is passed over in a quoted text: nothing, blanks up to a line feed, or blanks and line
feeds. -/
inductive Skipping where
  | nothing
  | toBreak
  | blanks
  deriving DecidableEq

/-- The inside of a text in double quotes, with its end. -/
def basicBody (multiline : Bool) : Skipping → Scan (List Char)
  | _, [] => .error .malformed
  | .toBreak, c :: cs =>
    if c == '\n' then basicBody multiline .blanks cs
    else if isSpace c then basicBody multiline .toBreak cs
    else .error .malformed
  | mode, c :: cs =>
    if mode == .blanks && isSpaceOrBreak c then basicBody multiline .blanks cs
    else if c == '"' then
      if multiline then
        match cs with
        | '"' :: '"' :: rest => .ok ([], rest)
        | cs => consTo '"' (basicBody multiline .nothing cs)
      else .ok ([], cs)
    else if c == '\\' then
      match cs with
      | 'u' :: a :: b :: c :: d :: rest => do
        consTo (← hexChar [a, b, c, d]) (basicBody multiline .nothing rest)
      | 'U' :: a :: b :: c :: d :: e :: f :: g :: h :: rest => do
        consTo (← hexChar [a, b, c, d, e, f, g, h]) (basicBody multiline .nothing rest)
      | e :: rest =>
        if multiline && e == '\n' then basicBody multiline .blanks rest
        else if multiline && isSpace e then basicBody multiline .toBreak rest
        else
          match escaped? e with
          | some x => consTo x (basicBody multiline .nothing rest)
          | none => .error .malformed
      | [] => .error .malformed
    else if isIllegal multiline c then .error .malformed
    else consTo c (basicBody multiline .nothing cs)

def literalBody : Scan (List Char)
  | [] => .error .malformed
  | c :: cs =>
    if c == '\'' then .ok ([], cs)
    else if isIllegal false c then .error .malformed
    else consTo c (literalBody cs)

def longLiteralBody : Scan (List Char)
  | '\'' :: '\'' :: '\'' :: cs => .ok ([], cs)
  | c :: cs => if isIllegal true c then .error .malformed else consTo c (longLiteralBody cs)
  | [] => .error .malformed

/-- Up to two more quotes right after the end belong to the text. -/
def withFinalQuotes (quote : Char) (body rest : List Char) : List Char × List Char :=
  match rest with
  | a :: b :: more =>
    if a == quote then
      if b == quote then (body ++ [quote, quote], more) else (body ++ [quote], b :: more)
    else (body, rest)
  | [a] => if a == quote then (body ++ [quote], []) else (body, rest)
  | [] => (body, rest)

def dropFirstBreak : List Char → List Char
  | '\n' :: cs => cs
  | cs => cs

/-- A text in double quotes on one line; the quote is read already. -/
def basicString : Scan String := fun cs => do
  let (body, rest) ← basicBody false .nothing cs
  return (String.ofList body, rest)

def longBasicString : Scan String := fun cs => do
  let (body, rest) ← basicBody true .nothing (dropFirstBreak cs)
  let (body, rest) := withFinalQuotes '"' body rest
  return (String.ofList body, rest)

def literalString : Scan String := fun cs => do
  let (body, rest) ← literalBody cs
  return (String.ofList body, rest)

def longLiteralString : Scan String := fun cs => do
  let (body, rest) ← longLiteralBody (dropFirstBreak cs)
  let (body, rest) := withFinalQuotes '\'' body rest
  return (String.ofList body, rest)

/-! ## Keys -/

def isBare (c : Char) : Bool := c.isAlphanum || c == '-' || c == '_'

def startsKey (c : Char) : Bool := isBare c || c == '"' || c == '\''

def keyPart : Scan String
  | '"' :: cs => basicString cs
  | '\'' :: cs => literalString cs
  | cs =>
    let word := cs.takeWhile isBare
    if word.isEmpty then .error .malformed
    else .ok (String.ofList word, cs.dropWhile isBare)

/-- The parts of a key with dots between them, of which there are at most `fuel`. -/
def keyParts : Nat → Scan (List String)
  | 0, _ => .error .malformed
  | fuel + 1, cs => do
    let (part, rest) ← keyPart cs
    match skipSpaces rest with
    | '.' :: more =>
      let (parts, rest) ← keyParts fuel (skipSpaces more)
      return (part :: parts, rest)
    | rest => return ([part], rest)

def key : Scan (List String) := fun cs => keyParts (cs.length + 1) cs

end Formwright.Toml
