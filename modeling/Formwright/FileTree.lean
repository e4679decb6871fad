import Formwright.Path

/-!
# File trees

The files below one directory, by the way to each. A directory is there as long as a file lies
below it, and the tree's own directory is always there. Nothing is known of what lies outside: a
path with a root, or one that climbs above the directory, leads nowhere.

## Contents

* `PathFault`: why nothing can be read or written at a path.
* `Entry`: what lies at the end of a path.
* `FileTree`, `FileTree.entry`, `FileTree.below`, `FileTree.write`: the files and how they are
  reached.
-/

namespace Formwright

inductive PathFault where
  | missing
  /-- A directory lies there. -/
  | directory
  /-- The path goes on behind a file. -/
  | notDirectory
  deriving DecidableEq, Repr

inductive Entry where
  | missing
  | directory
  | file (text : String)
  deriving DecidableEq, Repr

/-- The files below a directory. -/
structure FileTree where
  files : List (List String × String)

namespace FileTree

def ofFiles (files : List (String × String)) : FileTree :=
  ⟨files.map fun f => ((Path.ofText f.1).steps, f.2)⟩

/-- What lies at a place, which is given without `..` steps. -/
def entryAt (t : FileTree) (place : List String) : Entry :=
  match t.files.lookup place with
  | some text => .file text
  | none =>
    if place.isEmpty || t.files.any fun f => place.isPrefixOf f.1 then .directory else .missing

/-- The place that steps from a place lead to. All but the last lead through directories. -/
def follow (t : FileTree) (place : List String) : List String → Except PathFault (List String)
  | [] => .ok place
  | step :: steps =>
    match t.entryAt place with
    | .missing => .error .missing
    | .file _ => .error .notDirectory
    | .directory =>
      if step != ".." then t.follow (place ++ [step]) steps
      else if place.isEmpty then .error .missing
      else t.follow place.dropLast steps

def place (t : FileTree) (p : Path) : Except PathFault (List String) :=
  if p.isAbsolute then .error .missing else t.follow [] p.steps

def entry (t : FileTree) (p : Path) : Entry :=
  match t.place p with
  | .ok place => t.entryAt place
  | .error _ => .missing

/-- The files below a directory by the way from there, if it is a directory. -/
def below (t : FileTree) (p : Path) : Option (List (String × String)) :=
  match t.place p with
  | .error _ => none
  | .ok place =>
    if t.entryAt place == .directory then
      some (t.files.filterMap fun f =>
        if place.isPrefixOf f.1 then some (Text.joinWith "/" (f.1.drop place.length), f.2)
        else none)
    else none

def writeAt (place : List String) (text : String) (t : FileTree) : FileTree :=
  ⟨(place, text) :: t.files.filter fun f => f.1 != place⟩

/-- Writes a file into a directory that is there, in place of an earlier file. -/
def write (t : FileTree) (p : Path) (text : String) : Except PathFault FileTree := do
  let place ← t.place p
  if t.entryAt place == .directory then throw .directory
  return t.writeAt place text

end FileTree

end Formwright
