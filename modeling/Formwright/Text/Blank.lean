/-!
# Blank characters

`isBlank` is the Unicode white-space property together with the four ASCII separators (0x1c to
0x1f). `strip` removes blanks from both ends of a text and nothing else; a text is `allBlank` when
nothing would be left.
-/

namespace Formwright.Text

/-- White space in the sense of text fields: the Unicode property and the ASCII separators. -/
def isBlank (c : Char) : Bool :=
  let n := c.toNat
  (9 ≤ n && n ≤ 13) || (0x1c ≤ n && n ≤ 0x20) || n == 0x85 || n == 0xa0 || n == 0x1680
    || (0x2000 ≤ n && n ≤ 0x200a) || n == 0x2028 || n == 0x2029 || n == 0x202f || n == 0x205f
    || n == 0x3000

def trimBy (p : Char → Bool) (cs : List Char) : List Char :=
  ((cs.dropWhile p).reverse.dropWhile p).reverse

def stripChars (cs : List Char) : List Char := trimBy isBlank cs

def strip (s : String) : String := String.ofList (stripChars s.toList)

/-- Nothing but blanks; the empty text counts. -/
def allBlank (s : String) : Bool := s.toList.all isBlank

theorem trimBy_of_ends {p : Char → Bool} {cs : List Char}
    (first : ∀ c, cs.head? = some c → p c = false)
    (last : ∀ c, cs.getLast? = some c → p c = false) : trimBy p cs = cs := by
  have unchanged : ∀ ds : List Char, (∀ c, ds.head? = some c → p c = false) →
      ds.dropWhile p = ds := by
    intro ds h
    cases ds with
    | nil => rfl
    | cons d ds => simp [h d rfl]
  rw [trimBy, unchanged cs first, unchanged cs.reverse (by simpa using last), List.reverse_reverse]

end Formwright.Text
