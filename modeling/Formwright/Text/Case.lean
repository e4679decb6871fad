import Formwright.Text.UpperTable

/-!
# Letter case

`upper` is the full Unicode upper-case mapping: one character may become several. Lower case is
only ever needed to compare a text with plain ASCII words, so `lower` touches exactly the
characters whose lower-case form is an ASCII letter: `A` to `Z` and the Kelvin sign.
-/

namespace Formwright.Text

def upperChar (c : Char) : List Char :=
  let n := c.toNat
  if n < 0x80 then [c.toUpper]
  else match upperExpansions.lookup n with
    | some form => form.map Char.ofNat
    | none =>
      match upperRuns.find? fun r => r.first ≤ n && n ≤ r.last && (n - r.first) % r.step == 0 with
      | some r => [Char.ofNat ((n : Int) + r.offset).toNat]
      | none => [c]

def upper (s : String) : String := String.ofList (s.toList.flatMap upperChar)

def upperFirst : List Char → List Char
  | [] => []
  | c :: cs => upperChar c ++ cs

/-- Lower-cases a character whose lower-case form is an ASCII letter. -/
def lowerChar (c : Char) : Char := if c.toNat == 0x212a then 'k' else c.toLower

/-- Lower-cases a text as far as a comparison with ASCII words can tell. -/
def lower (s : String) : String := String.ofList (s.toList.map lowerChar)

end Formwright.Text
