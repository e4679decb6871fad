import Mathlib.Data.List.TakeWhile
import Formwright.Words.Inflection

/-!
# Inflected names

Inflection works on what follows the last underscore of a name and leaves the rest as it is. What it
puts in are letters of irregular words and of endings, so that characters that are in none of them,
such as underscores and brackets, are in an inflected name only if they are in the name.

- `inflectLast_front`: what stands up to the last underscore is kept.
- `pluralSegment_all`, `singularSegment_all`, `singularize_all`: the characters of inflected words.
- `inflected_whole`: a name without underscores gets none.
-/

namespace Formwright

open Text Words

/-! ## The segments of a name -/

theorem cutLast_front {mark : Char} {front last : List Char}
    (cut : front = [] ∨ ∃ before, front = before ++ [mark]) (whole : mark ∉ last) :
    cutLast mark (front ++ last) = (front, last) := by
  have others : ∀ ch ∈ last.reverse, (ch != mark) = true := by
    intro ch mem
    rw [bne_iff_ne]
    rintro rfl
    exact whole (List.mem_reverse.mp mem)
  have stops : front.reverse.takeWhile (· != mark) = [] := by
    rcases cut with rfl | ⟨before, rfl⟩
    · rfl
    · simp
  have tail : ((front ++ last).reverse.takeWhile (· != mark)).reverse = last := by
    rw [List.reverse_append, List.takeWhile_append_of_pos others, stops, List.append_nil,
      List.reverse_reverse]
  simp only [cutLast, tail]
  simp

/-- Only what follows the last underscore is inflected. -/
theorem inflectLast_front (inflect : List Char → List Char) {front last : String}
    (cut : front = "" ∨ ∃ before, front = before ++ "_") (whole : '_' ∉ last.toList) :
    inflectLast inflect (front ++ last) = front ++ inflectLast inflect last := by
  have ends : front.toList = [] ∨ ∃ before, front.toList = before ++ ['_'] := by
    rcases cut with rfl | ⟨before, rfl⟩
    · exact Or.inl rfl
    · exact Or.inr ⟨before.toList, String.toList_append⟩
  have alone : cutLast '_' last.toList = ([], last.toList) := cutLast_front (Or.inl rfl) whole
  apply String.toList_inj.mp
  simp only [inflectLast, String.toList_append, cutLast_front ends whole, alone,
    String.toList_ofList, List.nil_append]

/-! ## The letters of inflected words -/

section

variable {p : Char → Bool}

theorem dropEnd_all {cs : List Char} (h : cs.all p = true) (n : Nat) :
    (dropEnd n cs).all p = true := by
  rw [List.all_eq_true] at h ⊢
  intro ch mem
  exact h ch (List.mem_of_mem_take mem)

theorem matchCase_all (word : List Char) {form : List Char}
    (h : form.all (fun ch => p ch && p ch.toUpper) = true) :
    (matchCase word form).all p = true := by
  simp only [List.all_eq_true, Bool.and_eq_true] at h
  rw [List.all_eq_true]
  intro ch mem
  unfold matchCase at mem
  split at mem
  · rename_i w _ first others
    split at mem
    · rcases List.mem_cons.mp mem with rfl | mem
      · exact (h first List.mem_cons_self).2
      · exact (h ch (List.mem_cons_of_mem first mem)).1
    · exact (h ch mem).1
  · exact (h ch mem).1

/-- A plural has characters of its singular, of an irregular word, or of an ending. -/
theorem pluralSegment_all
    (irregular : irregularPlurals.all
      (fun e => e.2.toList.all fun ch => p ch && p ch.toUpper) = true)
    (endings : ['e', 'i', 's', 'v'].all p = true) {word : List Char} (h : word.all p = true) :
    (pluralSegment word).all p = true := by
  simp only [List.all_cons, List.all_nil, Bool.and_true, Bool.and_eq_true] at endings
  unfold pluralSegment
  dsimp only
  split
  · rename_i form isForm
    obtain ⟨e, found, rfl⟩ := Option.map_eq_some_iff.mp isForm
    have letters := List.all_eq_true.mp irregular e (List.mem_of_find?_eq_some found)
    exact matchCase_all word letters
  · split_ifs <;> simp [h, dropEnd_all h, endings]

/-- A singular has characters of its plural, of an irregular word, or a `y`. -/
theorem singularSegment_all
    (irregular : irregularPlurals.all
      (fun e => e.1.toList.all fun ch => p ch && p ch.toUpper) = true)
    (y : p 'y' = true) {word : List Char} (h : word.all p = true) :
    (singularSegment word).all p = true := by
  unfold singularSegment
  dsimp only
  split
  · rename_i form isForm
    obtain ⟨e, found, rfl⟩ := Option.map_eq_some_iff.mp isForm
    have letters := List.all_eq_true.mp irregular e (List.mem_of_find?_eq_some found)
    exact matchCase_all word letters
  · split_ifs <;> simp [h, dropEnd_all h, y]

theorem inflectLast_all {inflect : List Char → List Char}
    (segment : ∀ {word : List Char}, word.all p = true → (inflect word).all p = true)
    {name : String} (h : name.toList.all p = true) :
    (inflectLast inflect name).toList.all p = true := by
  rw [← cutLast_append '_' name.toList, List.all_append, Bool.and_eq_true] at h
  simp only [inflectLast, String.toList_ofList, List.all_append, Bool.and_eq_true]
  refine ⟨h.1, ?_⟩
  split
  · rfl
  · exact segment h.2

theorem singularize_all
    (irregular : irregularPlurals.all
      (fun e => e.1.toList.all fun ch => p ch && p ch.toUpper) = true)
    (y : p 'y' = true) {name : String} (h : name.toList.all p = true) :
    (singularize name).toList.all p = true :=
  inflectLast_all (singularSegment_all irregular y) h

end

/-- A name without underscores has none when it is inflected. -/
theorem inflected_whole {last : String} (whole : '_' ∉ last.toList) :
    '_' ∉ (pluralize last).toList ∧ '_' ∉ (singularize last).toList := by
  have letters : ∀ {cs : List Char}, cs.all (· != '_') = true ↔ '_' ∉ cs := by
    intro cs
    rw [List.all_eq_true]
    constructor
    · intro each mem
      exact absurd (each '_' mem) (by decide)
    · rintro free ch mem
      exact bne_iff_ne.mpr fun same => free (same ▸ mem)
  rw [← letters] at whole
  rw [← letters, ← letters]
  exact ⟨inflectLast_all (pluralSegment_all (by decide +kernel) rfl) whole,
    singularize_all (by decide +kernel) rfl whole⟩

theorem inflectLast_whole {inflect : List Char → List Char} {last : String}
    (whole : '_' ∉ last.toList) (kept : last = "" → inflect [] = []) :
    inflectLast inflect last = String.ofList (inflect last.toList) := by
  have alone : cutLast '_' last.toList = ([], last.toList) := cutLast_front (Or.inl rfl) whole
  by_cases empty : last = ""
  · subst empty
    rw [inflectLast, alone, String.toList_empty, kept rfl]
    rfl
  · simp [inflectLast, alone, empty]

end Formwright
