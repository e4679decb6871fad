/-!
# Texts in scripts

`escapeScript` writes a text so that it may stand between single or double quotes in a JavaScript
literal inside markup: quotes and backslashes are escaped, every kind of line break becomes `\n`,
and `</` is broken up so that no end tag is seen. `escapeScriptWith` also says how quotes and the
start of an end tag are spelled.
-/

namespace Formwright.Text

/-- The characters of a text as they stand in a script literal, with a spelling of the quotes and
of `<` before a slash. -/
def escapeScriptChars (spell : Char → List Char) : List Char → List Char
  | [] => []
  | '\\' :: cs => '\\' :: '\\' :: escapeScriptChars spell cs
  | '<' :: '/' :: cs => spell '<' ++ '\\' :: '/' :: escapeScriptChars spell cs
  | '\r' :: '\n' :: cs => '\\' :: 'n' :: escapeScriptChars spell cs
  | '\r' :: cs => '\\' :: 'n' :: escapeScriptChars spell cs
  | '\n' :: cs => '\\' :: 'n' :: escapeScriptChars spell cs
  | '"' :: cs => '\\' :: (spell '"' ++ escapeScriptChars spell cs)
  | '\'' :: cs => '\\' :: (spell '\'' ++ escapeScriptChars spell cs)
  | c :: cs => c :: escapeScriptChars spell cs

def escapeScriptWith (spell : Char → List Char) (s : String) : String :=
  String.ofList (escapeScriptChars spell s.toList)

def escapeScript (s : String) : String := escapeScriptWith (fun c => [c]) s

end Formwright.Text
