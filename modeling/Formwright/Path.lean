import Formwright.Text.Replace

/-!
# Paths

File paths as a root and steps. Empty and `.` steps mean nothing and are dropped when a path is
read; `..` steps are kept, because what they lead to depends on the files that are there.
-/

namespace Formwright

/-- A path. The root is empty for a relative path. -/
structure Path where
  root : String
  steps : List String
  deriving DecidableEq, Repr

namespace Path

/-- The root of a path: one slash, or two for exactly two leading slashes. -/
def rootOf : List Char → String
  | '/' :: '/' :: '/' :: _ => "/"
  | '/' :: '/' :: _ => "//"
  | '/' :: _ => "/"
  | _ => ""

def ofText (s : String) : Path where
  root := rootOf s.toList
  steps :=
    ((Text.splitAt '/' s.toList).map String.ofList).filter fun step => step != "" && step != "."

def text (p : Path) : String :=
  if p.root == "" && p.steps.isEmpty then "." else p.root ++ Text.joinWith "/" p.steps

def isAbsolute (p : Path) : Bool := p.root != ""

def parent (p : Path) : Path := ⟨p.root, p.steps.dropLast⟩

/-- A path seen from another one. -/
def join (base p : Path) : Path := if p.isAbsolute then p else ⟨base.root, base.steps ++ p.steps⟩

end Path

end Formwright
