import Formwright.Markup.Html

/-!
# Open texts

A text with places left open for an index. The index of a row is a word, and printing a word at a
place is all that a text can do with it: `Prints s` says so of a text `s i` for every index `i`. What
prints the index is closed under putting texts together and under escaping, and says nothing about
the index by being empty.

`replaceAll_close` turns a text closed with one index into the same text closed with another, when
the first is found only where it was printed.
-/

namespace Formwright

open Text

/-- An ASCII letter, a digit or an underscore. -/
def isWordChar (c : Char) : Bool := c.isAlphanum || c == '_'

/-- What the row of a relation may be numbered with. -/
structure Index where
  text : String
  nonempty : text.toList ≠ []
  word : text.toList.all isWordChar = true

/-- Characters and places left open. -/
abbrev OpenText := List (Option Char)

namespace OpenText

/-- The characters of an open text with something put in its places. -/
def chars (word : List Char) : OpenText → List Char
  | [] => []
  | none :: t => word ++ chars word t
  | some c :: t => c :: chars word t

/-- An open text with an index in its places. -/
def close (t : OpenText) (i : Index) : String := String.ofList (t.chars i.text.toList)

theorem chars_append (word : List Char) (t u : OpenText) :
    chars word (t ++ u) = chars word t ++ chars word u := by
  induction t with
  | nil => rfl
  | cons o t ih =>
    cases o with
    | none => simp [chars, ih]
    | some c => simp [chars, ih]

theorem chars_some (word cs : List Char) : chars word (cs.map some) = cs := by
  induction cs with
  | nil => rfl
  | cons c cs ih => rw [List.map_cons, chars, ih]

theorem chars_eq_nil {word : List Char} (h : word ≠ []) {t : OpenText} :
    chars word t = [] ↔ t = [] := by
  rcases t with _ | ⟨_ | c, t⟩
  · simp [chars]
  · simp [chars, h]
  · simp [chars]

/-! ## Open texts are told apart by what they are closed with -/

/-- The open text of two texts that differ where two indices were printed. -/
def align (cs ds : List Char) : OpenText :=
  List.zipWith (fun c d => if c == d then some c else none) cs ds

theorem align_chars {a b : Char} (h : a ≠ b) (t : OpenText) :
    align (chars [a] t) (chars [b] t) = t := by
  induction t with
  | nil => rfl
  | cons o t ih =>
    cases o with
    | none => simpa [align, chars, h] using ih
    | some c => simpa [align, chars] using ih

/-- The index of one letter. -/
def letterA : Index := ⟨"a", by decide, by decide⟩

/-- The index of one other letter. -/
def letterB : Index := ⟨"b", by decide, by decide⟩

theorem align_close (t : OpenText) :
    align (t.close letterA).toList (t.close letterB).toList = t := by
  rw [close, close, String.toList_ofList, String.toList_ofList]
  exact align_chars (by decide : 'a' ≠ 'b') t

/-- Open texts that agree for every index are the same. -/
theorem ext_close {t u : OpenText} (h : ∀ i, t.close i = u.close i) : t = u := by
  rw [← align_close t, ← align_close u, h letterA, h letterB]

/-! ## Replacing an index -/

/-- In the text closed with an index, the index is found only where it was printed: it begins at no
character of the open text itself. -/
def Clear (i : Index) : OpenText → Prop
  | [] => True
  | none :: t => Clear i t
  | some c :: t => ¬ i.text.toList <+: c :: chars i.text.toList t ∧ Clear i t

instance (i : Index) : ∀ t : OpenText, Decidable (Clear i t)
  | [] => .isTrue trivial
  | none :: t => instDecidableClear i t
  | some _ :: t =>
    have := instDecidableClear i t
    inferInstanceAs (Decidable (_ ∧ _))

theorem replaceAfter_skip (pattern new : List Char) (xs ys : List Char) :
    replaceAfter pattern new xs.length (xs ++ ys) = replaceAfter pattern new 0 ys := by
  induction xs with
  | nil => rfl
  | cons x xs ih => rw [List.length_cons, List.cons_append, replaceAfter, ih]

theorem replaceAfter_found {pattern : List Char} (h : pattern ≠ []) (new ys : List Char) :
    replaceAfter pattern new 0 (pattern ++ ys) = new ++ replaceAfter pattern new 0 ys := by
  obtain ⟨p, ps, rfl⟩ := List.exists_cons_of_ne_nil h
  have found : (p :: ps).isPrefixOf (p :: (ps ++ ys)) = true :=
    List.isPrefixOf_iff_prefix.mpr (List.prefix_append _ _)
  rw [List.cons_append, replaceAfter, if_pos found]
  exact congrArg (new ++ ·) (replaceAfter_skip (p :: ps) new ps ys)

/-- Replacing an index that is found only where it was printed prints another in its place. -/
theorem replaceAll_close {i : Index} {t : OpenText} (clear : t.Clear i) (j : Index) :
    replaceAll i.text j.text (t.close i) = t.close j := by
  have replaced : replaceAfter i.text.toList j.text.toList 0 (t.chars i.text.toList) =
      t.chars j.text.toList := by
    induction t with
    | nil => rfl
    | cons o t ih =>
      cases o with
      | none => rw [chars, replaceAfter_found i.nonempty, ih clear, chars]
      | some c =>
        have other := mt List.isPrefixOf_iff_prefix.mp clear.1
        rw [chars, replaceAfter, if_neg other, ih clear.2, chars]
  rw [replaceAll, close, String.toList_ofList, replaced, close]

end OpenText

/-! ## What prints an index -/

/-- A text for every index that prints it and does nothing else with it. -/
def Prints (s : Index → String) : Prop := ∃ t : OpenText, ∀ i, s i = t.close i

namespace Prints

open OpenText

variable {s s' : Index → String}

theorem const (s : String) : Prints fun _ => s :=
  ⟨s.toList.map some, fun _ => by rw [close, chars_some, String.ofList_toList]⟩

theorem index : Prints Index.text :=
  ⟨[none], fun i => by simp [close, chars]⟩

theorem append (h : Prints s) (h' : Prints s') : Prints fun i => s i ++ s' i := by
  obtain ⟨t, printed⟩ := h
  obtain ⟨t', printed'⟩ := h'
  refine ⟨t ++ t', fun i => ?_⟩
  simp only [printed, printed', close, chars_append, String.ofList_append]

theorem eq_empty (h : Prints s) : (∀ i, s i = "") ∨ ∀ i, s i ≠ "" := by
  obtain ⟨t, printed⟩ := h
  have empty : ∀ i, s i = "" ↔ t = [] := by
    intro i
    rw [printed, close, ← chars_eq_nil i.nonempty, ← String.toList_inj, String.toList_ofList]
    rfl
  by_cases none : t = []
  · exact .inl fun i => (empty i).mpr none
  · exact .inr fun i => mt (empty i).mp none

/-- The characters of an index have no meaning in markup. -/
theorem escapedChar_word {c : Char} (h : isWordChar c = true) : escapedChar c = [c] := by
  have ne : ∀ d, isWordChar d = false → (c == d) = false := by
    intro d plain
    rw [beq_eq_false_iff_ne]
    rintro rfl
    simp [h] at plain
  simp [escapedChar, ne '&' (by decide), ne '<' (by decide), ne '>' (by decide),
    ne '"' (by decide), ne '\'' (by decide)]

/-- An open text with its own characters escaped. -/
def escaped (t : OpenText) : OpenText :=
  t.flatMap fun o => o.elim [none] fun c => (escapedChar c).map some

theorem chars_escaped (t : OpenText) (i : Index) :
    (t.chars i.text.toList).flatMap escapedChar = (escaped t).chars i.text.toList := by
  have word : ∀ cs : List Char, cs.all isWordChar = true → cs.flatMap escapedChar = cs := by
    intro cs all
    induction cs with
    | nil => rfl
    | cons c cs ih =>
      obtain ⟨first, rest⟩ := Bool.and_eq_true_iff.mp (List.all_cons ▸ all)
      rw [List.flatMap_cons, escapedChar_word first, ih rest, List.singleton_append]
  induction t with
  | nil => rfl
  | cons o t ih =>
    cases o with
    | none => simpa [chars, escaped, word _ i.word] using ih
    | some c => simpa [chars, escaped, chars_append, chars_some] using ih

theorem escape (h : Prints s) : Prints fun i => Formwright.escape (s i) := by
  obtain ⟨t, printed⟩ := h
  refine ⟨escaped t, fun i => ?_⟩
  simp only [printed, Formwright.escape, close, String.toList_ofList, chars_escaped]

end Prints

end Formwright
