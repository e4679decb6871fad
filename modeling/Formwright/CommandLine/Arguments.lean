import Formwright.Path

/-!
# Arguments

What the words after the program's name ask for. Options come before, between or after the form
file; of an option given twice the last one counts; after `--` every word is a file.

## Contents

* `RenderRequest`, `Command`: what can be asked for.
* `Command.read?`: the command of some words.
-/

namespace Formwright

structure RenderRequest where
  formFile : Path
  config : Path
  /-- Where the markup is written instead of standard output. -/
  output : Option Path
  deriving DecidableEq, Repr

inductive Command where
  | render (request : RenderRequest)
  | version
  deriving DecidableEq, Repr

/-- The words of a render command, sorted. -/
structure RenderWords where
  files : List String
  config : Option String
  output : Option String
  deriving DecidableEq, Repr

namespace RenderWords

def empty : RenderWords := ⟨[], none, none⟩

inductive Setting where
  | config
  | output
  deriving DecidableEq, Repr

def Setting.ofName? (name : String) : Option Setting :=
  if name == "--config" then some .config
  else if name == "--output" then some .output
  else none

def Setting.ofLetter? (letter : Char) : Option Setting :=
  if letter == 'c' then some .config
  else if letter == 'o' then some .output
  else none

def set (w : RenderWords) (s : Setting) (value : String) : RenderWords :=
  match s with
  | .config => { w with config := some value }
  | .output => { w with output := some value }

def addFile (w : RenderWords) (file : String) : RenderWords :=
  { w with files := w.files ++ [file] }

inductive Kind where
  | file
  /-- The words after this one are files. -/
  | separator
  /-- A setting, with its value if the word holds it. -/
  | setting (s : Setting) (value : Option String)
  /-- An option without a value that does not change what is rendered. -/
  | plain
  | unknown
  deriving DecidableEq, Repr

/-- A long option and what follows its first equals sign. -/
def splitOption (word : String) : String × Option String :=
  let cs := word.toList
  let name := cs.takeWhile (· != '=')
  match cs.drop name.length with
  | _ :: value => (String.ofList name, some (String.ofList value))
  | [] => (word, none)

def kindOf (word : String) : Kind :=
  match word.toList with
  | ['-', '-'] => .separator
  | '-' :: '-' :: _ =>
    let (name, value) := splitOption word
    match Setting.ofName? name with
    | some s => .setting s value
    | none => if word == "--verbose" then .plain else .unknown
  | '-' :: letter :: rest =>
    match Setting.ofLetter? letter with
    | some s => .setting s (if rest.isEmpty then none else some (String.ofList rest))
    | none => .unknown
  | _ => .file

/-- Sorts words. A setting without a value takes the next word for it, whatever it is. -/
def sort? (w : RenderWords) : List String → Option RenderWords
  | [] => some w
  | [word] =>
    match kindOf word with
    | .file => some (w.addFile word)
    | .separator | .plain => some w
    | .setting s (some value) => some (w.set s value)
    | .setting _ none | .unknown => none
  | word :: next :: rest =>
    match kindOf word with
    | .file => (w.addFile word).sort? (next :: rest)
    | .separator => some { w with files := w.files ++ next :: rest }
    | .plain => w.sort? (next :: rest)
    | .setting s (some value) => (w.set s value).sort? (next :: rest)
    | .setting s none => (w.set s next).sort? rest
    | .unknown => none

/-- The request of sorted words, which name one file. -/
def request? (w : RenderWords) : Option RenderRequest :=
  match w.files with
  | [file] => some {
      formFile := Path.ofText file
      config := Path.ofText (w.config.getD "admin_forms.toml")
      output := w.output.map Path.ofText }
  | _ => none

end RenderWords

def Command.read? : List String → Option Command
  | ["version"] => some .version
  | "render" :: words => do return .render (← (← RenderWords.empty.sort? words).request?)
  | _ => none

end Formwright
