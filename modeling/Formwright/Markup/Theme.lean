import Formwright.Markup.BuiltIn
import Formwright.Text.Blank
import Formwright.Text.Case

/-!
# Themes

A theme finds templates by name. A project may bring files that take the place of built-in
templates; a file is literal text and tags that include other templates, and what it includes is
filled with the same variables. The name `af://NAME` always means the built-in template.

## Contents

* `Segment`, `segments`: the parts of a project file.
* `Theme`, `Theme.find?`: where a name leads.
* `Theme.fill`, `Theme.fillNamed`: a named template, filled.
-/

namespace Formwright

open Template Text

/-! ## Project files -/

/-- A part of a project file. -/
inductive Segment where
  | text (s : String)
  | embed (name : String)
  deriving DecidableEq, Repr

namespace Segment

/-- Carriage returns, alone or before a line feed, are line feeds. -/
def unixLines : List Char → List Char
  | '\r' :: '\n' :: cs => '\n' :: unixLines cs
  | '\r' :: cs => '\n' :: unixLines cs
  | c :: cs => c :: unixLines cs
  | [] => []

def dropFinalLineFeed (cs : List Char) : List Char :=
  if endsWith cs ['\n'] then dropEnd 1 cs else cs

/-- The marks that a name may stand between. -/
def quotes : List Char := ['"', '\'']

/-- An include tag at the start of a text: the name in it, and the number of characters up to the
end of the tag and of a line feed right after it. -/
def tag? (cs : List Char) : Option (String × Nat) :=
  match cs with
  | '\x7b' :: '%' :: inside =>
    match inside.dropWhile isBlank with
    | 'i' :: 'n' :: 'c' :: 'l' :: 'u' :: 'd' :: 'e' :: rest =>
      match rest.dropWhile isBlank with
      | quote :: named =>
        if quotes.contains quote then
          let name := named.takeWhile (· != quote)
          match (named.drop (name.length + 1)).dropWhile isBlank with
          | '%' :: '\x7d' :: '\n' :: after => some (String.ofList name, cs.length - after.length)
          | '%' :: '\x7d' :: after => some (String.ofList name, cs.length - after.length)
          | _ => none
        else none
      | [] => none
    | _ => none
  | _ => none

/-- Drops the indentation of a tag: blanks after the start of the line. The text before the tag is
in reverse; `fresh` says that it begins a line. -/
def dropIndent (fresh : Bool) (before : List Char) : List Char :=
  let indent := before.takeWhile (· != '\n')
  if (fresh || before.contains '\n') && indent.all isBlank then before.drop indent.length
  else before

/-- The text before a tag, unless there is none. -/
def ofReversed (before : List Char) : List Segment :=
  if before.isEmpty then [] else [.text (String.ofList before.reverse)]

/-- Splits a text at its tags, after passing over the next `skip` characters, which belong to a
tag. -/
def split : Nat → Bool → List Char → List Char → List Segment
  | _, _, before, [] => ofReversed before
  | skip + 1, _, before, c :: cs => split skip (c == '\n') before cs
  | 0, fresh, before, c :: cs =>
    match tag? (c :: cs) with
    | some (name, length) =>
      ofReversed (dropIndent fresh before) ++ .embed name :: split (length - 1) false [] cs
    | none => split 0 fresh (c :: before) cs

end Segment

def segments (source : String) : List Segment :=
  Segment.split 0 true [] (Segment.dropFinalLineFeed (Segment.unixLines source.toList))

/-! ## Finding templates -/

/-- The files of a project by path, if there is a project. -/
structure Theme where
  project : Option (List (String × String))

/-- The path a template name leads to: empty and `.` steps are passed over, and a name with a
`..` step leads nowhere. -/
def templatePath? (name : String) : Option String :=
  let steps := (splitAt '/' name.toList).map String.ofList
  if steps.contains ".." then none
  else some (joinWith "/" (steps.filter fun s => s != "" && s != "."))

inductive Found where
  | builtIn (body : List Node)
  | file (parts : List Segment)

namespace Theme

def namesIn (source : String) : List String :=
  (segments source).filterMap fun part =>
    match part with
    | .text _ => none
    | .embed name => some name

def standard : Theme := ⟨none⟩

def builtIn? (name : String) : Option Found :=
  (templatePath? name >>= fun path => Template.builtIn.lookup path).map .builtIn

def file? (theme : Theme) (name : String) : Option Found := do
  let files ← theme.project
  let path ← templatePath? name
  let entry ← files.find? fun f => templatePath? f.1 == some path
  return .file (segments entry.2)

/-- What a name leads to: with the mark `af://` a built-in template, without it a file of the
project or else a built-in template. -/
def find? (theme : Theme) (name : String) : Option Found :=
  let marked :=
    match name.toList with
    | 'a' :: 'f' :: ':' :: '/' :: '/' :: rest => builtIn? (String.ofList rest)
    | _ => none
  marked <|> theme.file? name <|> builtIn? name

/-- Templates whose name says that they are markup escape what they are filled with. -/
def isEscaping (name : String) : Bool := endsWith (lower name).toList ".html".toList

/-- A named template, filled; inclusions may be `depth` deep. -/
def fillWithin (theme : Theme) (scope : Scope) : Nat → String → Except Fault (List Html)
  | 0, _ => .error (.misuse .depth)
  | depth + 1, name =>
    match theme.find? name with
    | none => .error (.noTemplate name)
    | some (.builtIn body) => Node.fillAll scope (isEscaping name) body
    | some (.file parts) =>
      concatM (fun part =>
        match part with
        | .text s => .ok [.piece (.markup s)]
        | .embed included => fillWithin theme scope depth included) parts

/-- The deepest inclusion without a file including itself: every file once, and a built-in
template. -/
def maxDepth (theme : Theme) : Nat := (theme.project.getD []).length + 1

def fill (theme : Theme) (name : String) (scope : Scope) : Except Fault (List Html) :=
  theme.fillWithin scope theme.maxDepth name

/-- Names that no variable may have, because filling a template uses them itself. -/
def reservedNames : List String := ["self", "template_name"]

def fillNamed (theme : Theme) (name : String) (entries : List (String × Value)) :
    Except Fault (List Html) :=
  if entries.any fun v => reservedNames.contains v.1 then .error (.misuse .kind)
  else theme.fill name (entries.map fun v => (v.1, .value v.2))

end Theme

end Formwright
