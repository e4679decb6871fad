import Formwright.Text.Blank
import Formwright.Text.Case
import Formwright.Text.Replace

/-!
# Labels

`humanize` turns an identifier into a label: a final `_id` is dropped (a line feed after it does
not hide it), underscores become spaces, blanks at the ends go, and the first character is
upper-cased.
-/

namespace Formwright.Words

open Formwright.Text

/-- Drops `_id` at the end, or before a line feed at the end. -/
def dropIdSuffix (cs : List Char) : List Char :=
  if endsWith cs ['_', 'i', 'd', '\n'] then dropEnd 4 cs ++ ['\n']
  else if endsWith cs ['_', 'i', 'd'] then dropEnd 3 cs
  else cs

def humanize (name : String) : String :=
  let spaced := (dropIdSuffix name.toList).map fun c => if c == '_' then ' ' else c
  String.ofList (upperFirst (stripChars spaced))

end Formwright.Words
