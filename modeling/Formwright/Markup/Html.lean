import Formwright.Text.Replace
import Formwright.Value.Text

/-!
# Markup trees

What a form is drawn with: a tree of elements, void elements and pieces of text. A piece is either
text, escaped when it is written, or markup, written as it is. `Html.writeAll` is the only place
where a tree becomes text, so what is escaped and how tags are closed is decided here alone.

## Contents

* `Piece`: text or markup; `Piece.write`.
* `Attr`, `Html`: the tree.
* `Html.write`, `Html.writeAll`: the text of a tree.
-/

namespace Formwright

/-- Text to be escaped, or markup to be written as it is. -/
inductive Piece where
  | text (s : String)
  | markup (s : String)
  deriving DecidableEq, Repr

def escapedChar (c : Char) : List Char :=
  if c == '&' then "&amp;".toList
  else if c == '<' then "&lt;".toList
  else if c == '>' then "&gt;".toList
  else if c == '"' then "&#34;".toList
  else if c == '\'' then "&#39;".toList
  else [c]

def escape (s : String) : String := String.ofList (s.toList.flatMap escapedChar)

def Piece.write : Piece → String
  | .text s => escape s
  | .markup s => s

def writePieces : List Piece → String
  | [] => ""
  | p :: rest => p.write ++ writePieces rest

/-- A value as a piece: text, unless it is markup already. -/
def Value.piece : Value → Piece
  | .markup s => .markup s
  | v => .text v.toText

structure Attr where
  name : Piece
  value : List Piece
  deriving DecidableEq, Repr

/-- The attribute with the space before it. -/
def Attr.write (a : Attr) : String :=
  " " ++ a.name.write ++ "=\"" ++ writePieces a.value ++ "\""

def writeAttrs : List Attr → String
  | [] => ""
  | a :: rest => a.write ++ writeAttrs rest

inductive Html where
  | piece (p : Piece)
  | element (tag : String) (attrs : List Attr) (body : List Html)
  /-- An element that has no body and no end tag. -/
  | void (tag : String) (attrs : List Attr)

namespace Html

mutual

def write : Html → String
  | .piece p => p.write
  | .element tag attrs body =>
    "<" ++ tag ++ writeAttrs attrs ++ ">" ++ writeAll body ++ "</" ++ tag ++ ">"
  | .void tag attrs => "<" ++ tag ++ writeAttrs attrs ++ ">"

def writeAll : List Html → String
  | [] => ""
  | h :: rest => h.write ++ writeAll rest

end

def lineFeed : Html := .piece (.text "\n")

def joinLines : List (List Html) → List Html
  | [] => []
  | [block] => block
  | block :: rest => block ++ lineFeed :: joinLines rest

theorem writeAll_append (xs ys : List Html) : writeAll (xs ++ ys) = writeAll xs ++ writeAll ys := by
  induction xs with
  | nil => simp [writeAll]
  | cons x xs ih => simp [writeAll, ih, String.append_assoc]

end Html

end Formwright
