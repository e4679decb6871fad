/-!
# Replacing parts of a text

`replaceAll` replaces the occurrences of a non-empty pattern from left to right, without looking
into what was put in. `joinWith` puts a separator between texts, `splitAt` cuts a text at every
occurrence of a character and `cutLast` at the last one. `occursIn` looks for a part of a text.
-/

namespace Formwright.Text

/-- Replaces occurrences of `pattern`, after passing over the next `skip` characters, which belong
to an occurrence that was replaced already. -/
def replaceAfter (pattern new : List Char) : Nat → List Char → List Char
  | _, [] => []
  | skip + 1, _ :: cs => replaceAfter pattern new skip cs
  | 0, c :: cs =>
    if pattern.isPrefixOf (c :: cs) then new ++ replaceAfter pattern new (pattern.length - 1) cs
    else c :: replaceAfter pattern new 0 cs

/-- Replaces every occurrence of a non-empty pattern. -/
def replaceAll (pattern new s : String) : String :=
  String.ofList (replaceAfter pattern.toList new.toList 0 s.toList)

def joinWith (sep : String) : List String → String
  | [] => ""
  | [s] => s
  | s :: rest => s ++ sep ++ joinWith sep rest

/-- Cuts at the last occurrence of a character: what stands before it, with it, and what follows. -/
def cutLast (mark : Char) (cs : List Char) : List Char × List Char :=
  let last := (cs.reverse.takeWhile (· != mark)).reverse
  (cs.take (cs.length - last.length), last)

def splitAt (mark : Char) : List Char → List (List Char)
  | [] => [[]]
  | c :: cs =>
    if c == mark then [] :: splitAt mark cs
    else
      match splitAt mark cs with
      | [] => [[c]]
      | part :: rest => (c :: part) :: rest

def occursIn (part : List Char) : List Char → Bool
  | [] => part.isEmpty
  | c :: cs => part.isPrefixOf (c :: cs) || occursIn part cs

def endsWith (cs ending : List Char) : Bool := ending.isSuffixOf cs

def dropEnd (n : Nat) (cs : List Char) : List Char := cs.take (cs.length - n)

theorem cutLast_append (mark : Char) (cs : List Char) :
    (cutLast mark cs).1 ++ (cutLast mark cs).2 = cs := by
  have whole : cs = (cs.reverse.dropWhile (· != mark)).reverse
      ++ (cs.reverse.takeWhile (· != mark)).reverse := by
    rw [← List.reverse_append, List.takeWhile_append_dropWhile, List.reverse_reverse]
  simp only [cutLast]
  conv => lhs; arg 1; rw [whole]
  conv => rhs; rw [whole]
  simp

end Formwright.Text
