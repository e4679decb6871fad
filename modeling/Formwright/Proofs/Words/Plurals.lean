import Formwright.Proofs.Words.Letters

/-!
# Singulars of plurals

The plural of a word is made by one list of rules and taken back by another. Irregular words are in
a table that both lists ask first. Every other plural is a stem and an `s`, and its singular is
found from the stem: `es` is dropped after a sibilant, `ies` becomes `y`, and else `s` is dropped.
So a word comes back unless its stem looks like that of another word.

- `pluralStem`, `pluralSegment_regular`: plurals of regular words.
- `singularSegment_snoc`: singulars of what ends in `s`.
- `ambiguousWords`, `ambiguousEndings`: words that another plural is taken for.
- `roundTrip_iff`: the regular words that come back.
- `singularize_pluralize`: names.
-/

namespace Formwright

open Text Words

/-! ## Endings -/

@[simp] theorem endsInAny_nil (w : List Char) : endsInAny w [] = false := rfl

@[simp] theorem endsInAny_cons (w : List Char) (ending : String) (endings : List String) :
    endsInAny w (ending :: endings) = (endsWith w ending.toList || endsInAny w endings) := rfl

theorem endsInAny_iff {w : List Char} {endings : List String} :
    endsInAny w endings = true ↔ ∃ ending ∈ endings, ending.toList <:+ w := by
  simp [endsInAny, endsWith]

theorem endsWith_append (w ending : List Char) : endsWith (w ++ ending) ending = true :=
  List.isSuffixOf_iff_suffix.mpr (List.suffix_append w ending)

theorem append_ne {word ending : List Char} (free : endsWith word ending = false) (w : List Char) :
    w ++ ending ≠ word := by
  rintro rfl
  rw [endsWith_append] at free
  cases free

theorem dropEnd_zero (w : List Char) : dropEnd 0 w = w := List.take_length

theorem dropEnd_append (w ending : List Char) : dropEnd ending.length (w ++ ending) = w := by
  simp [dropEnd]

theorem dropEnd_snoc (n : Nat) (w : List Char) (ch : Char) :
    dropEnd (n + 1) (w ++ [ch]) = dropEnd n w := by
  unfold dropEnd
  rw [List.length_append, List.length_singleton, Nat.add_sub_add_right]
  exact List.take_append_of_le_length (Nat.sub_le _ _)

/-- The word is one of these. -/
def isOneOf (words : List String) (w : List Char) : Bool := words.any (·.toList == w)

theorem isOneOf_iff {words : List String} {w : List Char} :
    isOneOf words w = true ↔ ∃ word ∈ words, word.toList = w := by
  simp [isOneOf]

theorem isOneOf_append (words : List String) (ending : List Char)
    (free : words.all (fun word => !endsWith word.toList ending) = true) (w : List Char) :
    isOneOf words (w ++ ending) = false := by
  rw [← Bool.not_eq_true, isOneOf_iff]
  rintro ⟨word, mem, same⟩
  have other := List.all_eq_true.mp free word mem
  rw [Bool.not_eq_true'] at other
  exact append_ne other w same.symm

/-- The word has no capital letter from `A` to `Z`. -/
def IsLower (w : List Char) : Prop := ∀ ch ∈ w, ch.toLower = ch

theorem IsLower.append {w w' : List Char} (h : IsLower w) (h' : IsLower w') :
    IsLower (w ++ w') := by
  intro ch mem
  rcases List.mem_append.mp mem with mem | mem
  · exact h ch mem
  · exact h' ch mem

theorem IsLower.dropEnd {w : List Char} (h : IsLower w) (n : Nat) : IsLower (dropEnd n w) :=
  fun ch mem => h ch (List.mem_of_mem_take mem)

theorem IsLower.map_toLower {w : List Char} (h : IsLower w) : w.map Char.toLower = w :=
  (List.map_congr_left h).trans (List.map_id w)

/-! ## Irregular words -/

/-- The words of the table that end in `s`, singulars and plurals, without this letter. -/
def tabledStems : List String :=
  ["statu", "addres", "statuse", "addresse", "indice", "matrice", "vertice"]

theorem tabledStems_complete : irregularPlurals.all (fun e => [e.1, e.2].all fun word =>
    !endsWith word.toList ['s'] || isOneOf tabledStems (dropEnd 1 word.toList)) = true := by
  simp [irregularPlurals, tabledStems, isOneOf, endsWith, List.isSuffixOf, List.isPrefixOf, dropEnd]

theorem roundTrip_irregular : irregularPlurals.all (fun e =>
    singularSegment (pluralSegment e.1.toList) == e.1.toList) = true := by
  decide +kernel

theorem irregularPlural?_none {t : String} (h : ∀ e ∈ irregularPlurals, e.1 ≠ t) :
    irregularPlural? t.toList = none := by
  rw [irregularPlural?, Option.map_eq_none_iff, List.find?_eq_none]
  intro e mem same
  exact h e mem (String.toList_inj.mp (beq_iff_eq.mp same))

/-- A stem that is not listed makes no word of the table with an `s`. -/
theorem irregular_snoc {u : List Char} (free : isOneOf tabledStems u = false) :
    irregularPlural? (u ++ ['s']) = none ∧ irregularSingular? (u ++ ['s']) = none := by
  have other : ∀ e ∈ irregularPlurals, ∀ word ∈ [e.1, e.2], word.toList ≠ u ++ ['s'] := by
    intro e mem word mem' same
    have listed := List.all_eq_true.mp (List.all_eq_true.mp tabledStems_complete e mem) word mem'
    have stem : dropEnd 1 (u ++ ['s']) = u := dropEnd_append u ['s']
    rw [same, endsWith_append, stem, free] at listed
    cases listed
  simp only [irregularPlural?, irregularSingular?, Option.map_eq_none_iff, List.find?_eq_none,
    beq_iff_eq]
  exact ⟨fun e mem => other e mem e.1 (by simp), fun e mem => other e mem e.2 (by simp)⟩

/-! ## Regular words -/

/-- The plural of a regular word without its last letter, which is an `s`. -/
def pluralStem (t : List Char) : List Char :=
  if endsInAny t ["s", "x", "z", "ch", "sh"] then t ++ ['e']
  else if endsInAny t ["y"] then
    if vowelBeforeLast t then t else dropEnd 1 t ++ ['i', 'e']
  else if endsInAny t ["fe"] then dropEnd 2 t ++ ['v', 'e']
  else if endsInAny t ["elf", "alf", "olf", "eaf", "oaf", "arf"] then dropEnd 1 t ++ ['v', 'e']
  else if endsInAny t ["hero", "potato", "tomato", "echo", "veto"] then t ++ ['e']
  else t

theorem pluralStem_lower {t : List Char} (lower : IsLower t) : IsLower (pluralStem t) := by
  unfold pluralStem
  split_ifs
  · exact lower.append (by simp [IsLower])
  · exact lower
  · exact (lower.dropEnd 1).append (by simp [IsLower])
  · exact (lower.dropEnd 2).append (by simp [IsLower])
  · exact (lower.dropEnd 1).append (by simp [IsLower])
  · exact lower.append (by simp [IsLower])
  · exact lower

theorem pluralSegment_regular {t : List Char} (lower : IsLower t)
    (regular : irregularPlural? t = none) : pluralSegment t = pluralStem t ++ ['s'] := by
  unfold pluralSegment pluralStem
  dsimp only
  rw [lower.map_toLower, regular]
  dsimp only
  split_ifs <;> simp only [List.append_assoc, List.cons_append, List.nil_append]

/-- The singular of what ends in `s`, by what stands before this letter. -/
theorem singularSegment_snoc {u : List Char} (lower : IsLower u)
    (free : isOneOf tabledStems u = false) :
    singularSegment (u ++ ['s']) =
      if endsInAny u ["s"] then u ++ ['s']
      else if endsInAny u ["ie"] && 2 < u.length then dropEnd 2 u ++ ['y']
      else if endsInAny u ["che", "she", "xe", "ze"] then dropEnd 1 u
      else u := by
  obtain ⟨notSingular, notPlural⟩ := irregular_snoc free
  have lowerPlural : IsLower (u ++ ['s']) := lower.append (by simp [IsLower])
  have low := lowerPlural.map_toLower
  -- an ending of the whole word is an ending of the stem and an `s`
  have double : endsInAny (u ++ ['s']) ["ss"] = endsInAny u ["s"] := by
    simp [endsWith, List.isSuffixOf]
  have ies : endsInAny (u ++ ['s']) ["ies"] = endsInAny u ["ie"] := by
    simp [endsWith, List.isSuffixOf]
  have sibilant : endsInAny (u ++ ['s']) ["ches", "shes", "xes", "zes"] =
      endsInAny u ["che", "she", "xe", "ze"] := by
    simp [endsWith, List.isSuffixOf]
  have last : endsInAny (u ++ ['s']) ["s"] = true := by
    simp [endsWith, List.isSuffixOf]
  have long : (3 < (u ++ ['s']).length) = (2 < u.length) := by
    rw [List.length_append, List.length_singleton]
    exact propext (by omega)
  unfold singularSegment
  dsimp only
  simp only [low, notSingular, notPlural, double, ies, sibilant, last, long, dropEnd_snoc,
    dropEnd_zero, Option.isSome_none, Bool.false_or, if_true]

/-- The singular of the plural of a regular word, by the stem of the plural. -/
theorem roundTrip_stem {t u : List Char} (lower : IsLower t) (regular : irregularPlural? t = none)
    (stem : pluralStem t = u) (free : isOneOf tabledStems u = false) :
    singularSegment (pluralSegment t) =
      if endsInAny u ["s"] then u ++ ['s']
      else if endsInAny u ["ie"] && 2 < u.length then dropEnd 2 u ++ ['y']
      else if endsInAny u ["che", "she", "xe", "ze"] then dropEnd 1 u
      else u := by
  subst stem
  rw [pluralSegment_regular lower regular]
  exact singularSegment_snoc (pluralStem_lower lower) free

/-! ## There and back -/

/-- Words whose plural is taken for the plural of another word, or for no plural at all. -/
def ambiguousWords : List String :=
  ["y", "statu", "statuse", "addresse", "indice", "matrice", "vertice"]

/-- Endings whose plural looks like the plural of another ending. -/
def ambiguousEndings : List String :=
  ["s", "ie", "che", "she", "xe", "ze", "fe", "elf", "alf", "olf", "eaf", "oaf", "arf", "hero",
    "potato", "tomato", "echo", "veto"]

/-- The plural of the word is not taken for that of another. -/
def isUnambiguous (t : List Char) : Bool :=
  !isOneOf ambiguousWords t && !endsInAny t ambiguousEndings

theorem isUnambiguous_iff {t : String} : isUnambiguous t.toList = true ↔
    t ∉ ambiguousWords ∧ ∀ ending ∈ ambiguousEndings, ¬ ending.toList <:+ t.toList := by
  rw [isUnambiguous, Bool.and_eq_true, Bool.not_eq_true', Bool.not_eq_true', ← Bool.not_eq_true,
    ← Bool.not_eq_true, endsInAny_iff, isOneOf_iff]
  simp only [String.toList_inj, exists_eq_right, not_exists, not_and]

theorem ambiguousWords_tabled :
    ambiguousWords.all (fun word => isOneOf tabledStems word.toList || word == "y") = true := by
  simp [ambiguousWords, tabledStems, isOneOf]

/-- A word that is no stem of the table and has more letters than a `y` is not among those that are
ambiguous as a whole. -/
theorem isOneOf_ambiguousWords {t : List Char} (free : isOneOf tabledStems t = false)
    (other : t ≠ ['y']) : isOneOf ambiguousWords t = false := by
  rw [← Bool.not_eq_true, isOneOf_iff]
  rintro ⟨word, mem, rfl⟩
  have listed := List.all_eq_true.mp ambiguousWords_tabled word mem
  rw [free, Bool.false_or, beq_iff_eq] at listed
  exact other (listed ▸ rfl)

/-- Stems of the table do not come back as words. -/
theorem roundTrip_tabled : ∀ u ∈ tabledStems,
    singularSegment (pluralSegment u.toList) ≠ u.toList ∧ isUnambiguous u.toList = false ∧
      u.toList ≠ ['i', 'e'] := by
  decide +kernel

/-- No stem of the table ends as the stem of the plural of a word in `y`. -/
theorem tabledStems_y : ∀ ending ∈ [['y'], ['i', 'e']],
    tabledStems.all (fun word => !endsWith word.toList ending) = true := by
  simp [tabledStems, endsWith, List.isSuffixOf, List.isPrefixOf]

/-- Endings that are changed before the `s` of a plural, each with what stands in its place then and
with what the singular has of it. -/
def changedEndings : List (String × String × String) := [
  ("x", "xe", "x"), ("z", "ze", "z"), ("ch", "che", "ch"), ("sh", "she", "sh"), ("fe", "ve", "ve"),
  ("elf", "elve", "elve"), ("alf", "alve", "alve"), ("olf", "olve", "olve"),
  ("eaf", "eave", "eave"), ("oaf", "oave", "oave"), ("arf", "arve", "arve"),
  ("hero", "heroe", "heroe"), ("potato", "potatoe", "potatoe"),
  ("tomato", "tomatoe", "tomatoe"), ("echo", "echoe", "echoe"), ("veto", "vetoe", "vetoe")]

theorem changedEndings_free : changedEndings.all (fun row =>
    (tabledStems.all fun word => !endsWith word.toList row.1.toList) &&
      (tabledStems.all fun word => !endsWith word.toList row.2.1.toList) &&
      !endsWith ['y'] row.1.toList && !endsWith ['i', 'e'] row.1.toList) = true := by
  simp [changedEndings, tabledStems, endsWith, List.isSuffixOf, List.isPrefixOf]

section

variable (w : List Char)

theorem pluralStem_changed : ∀ row ∈ changedEndings,
    pluralStem (w ++ row.1.toList) = w ++ row.2.1.toList := by
  simp [changedEndings, pluralStem, endsWith, List.isSuffixOf, dropEnd,
    List.take_length_add_append]

/-- A changed ending is unambiguous if and only if it is changed back. -/
theorem isUnambiguous_changed : ∀ row ∈ changedEndings,
    isUnambiguous (w ++ row.1.toList) = (row.1 == row.2.2) := by
  have words : ∀ row ∈ changedEndings, isOneOf ambiguousWords (w ++ row.1.toList) = false := by
    intro row mem
    have free := List.all_eq_true.mp changedEndings_free row mem
    simp only [Bool.and_eq_true, Bool.not_eq_true'] at free
    exact isOneOf_ambiguousWords (isOneOf_append _ _ free.1.1.1 w) (append_ne free.1.2 w)
  intro row mem
  rw [isUnambiguous, words row mem]
  revert row
  simp [changedEndings, ambiguousEndings, endsWith, List.isSuffixOf, List.isPrefixOf]

theorem roundTrip_changed {row : String × String × String} (mem : row ∈ changedEndings)
    (lower : IsLower (w ++ row.1.toList)) (regular : irregularPlural? (w ++ row.1.toList) = none) :
    singularSegment (pluralSegment (w ++ row.1.toList)) = w ++ row.2.2.toList := by
  have free := List.all_eq_true.mp changedEndings_free row mem
  simp only [Bool.and_eq_true] at free
  rw [roundTrip_stem lower regular (pluralStem_changed w row mem)
    (isOneOf_append _ _ free.1.1.2 w)]
  clear lower regular free
  revert row
  simp [changedEndings, endsWith, List.isSuffixOf, dropEnd, List.take_length_add_append]

theorem tabledStems_after_s : tabledStems.all (fun u =>
    !endsWith u.toList ['s', 'e'] || (irregularPlural? (dropEnd 1 u.toList)).isSome) = true := by
  simp [tabledStems, endsWith, List.isSuffixOf, List.isPrefixOf, dropEnd, irregularPlural?,
    irregularPlurals]

/-- After an `s` the `e` of a plural is taken for a letter of the word. -/
theorem roundTrip_s (lower : IsLower (w ++ ['s']))
    (regular : irregularPlural? (w ++ ['s']) = none) :
    singularSegment (pluralSegment (w ++ ['s'])) = w ++ ['s', 'e'] := by
  have stem : pluralStem (w ++ ['s']) = w ++ ['s', 'e'] := by
    simp [pluralStem, endsWith, List.isSuffixOf]
  have free : isOneOf tabledStems (w ++ ['s', 'e']) = false := by
    rw [← Bool.not_eq_true, isOneOf_iff]
    rintro ⟨u, mem, same⟩
    have tabled := List.all_eq_true.mp tabledStems_after_s u mem
    have word : dropEnd 1 (w ++ ['s', 'e']) = w ++ ['s'] := by
      simp [dropEnd, List.take_length_add_append]
    rw [same, word, regular, endsWith_append] at tabled
    cases tabled
  rw [roundTrip_stem lower regular stem free]
  simp [endsWith, List.isSuffixOf]

variable (ch : Char)

theorem append_pair (rest : List Char) : w ++ ch :: rest = (w ++ [ch]) ++ rest := by
  rw [List.append_assoc, List.singleton_append]

theorem isUnambiguous_y : isUnambiguous (w ++ [ch, 'y']) = true := by
  have free : isOneOf tabledStems (w ++ [ch, 'y']) = false := by
    rw [append_pair]
    exact isOneOf_append _ _ (tabledStems_y _ (by simp)) _
  have other : w ++ [ch, 'y'] ≠ ['y'] := by
    intro same
    have lengths := congrArg List.length same
    simp at lengths
  rw [isUnambiguous, isOneOf_ambiguousWords free other]
  simp [endsWith, List.isSuffixOf, List.isPrefixOf, ambiguousEndings]

/-- A `y` after another letter comes back, after a vowel as it is and else from `ies`. -/
theorem roundTrip_y (lower : IsLower (w ++ [ch, 'y']))
    (regular : irregularPlural? (w ++ [ch, 'y']) = none) :
    singularSegment (pluralSegment (w ++ [ch, 'y'])) = w ++ [ch, 'y'] := by
  have stem : pluralStem (w ++ [ch, 'y']) =
      if "aeiou".toList.contains ch then w ++ [ch, 'y'] else w ++ [ch, 'i', 'e'] := by
    have vowel : vowelBeforeLast (w ++ [ch, 'y']) = "aeiou".toList.contains ch := by
      simp [vowelBeforeLast]
    rw [pluralStem, vowel]
    simp [endsWith, List.isSuffixOf, dropEnd, List.take_length_add_append]
  by_cases isVowel : "aeiou".toList.contains ch = true
  · rw [if_pos isVowel] at stem
    have free : isOneOf tabledStems (w ++ [ch, 'y']) = false := by
      rw [append_pair]
      exact isOneOf_append _ _ (tabledStems_y _ (by simp)) _
    rw [roundTrip_stem lower regular stem free]
    simp [endsWith, List.isSuffixOf]
  · rw [if_neg isVowel] at stem
    have free : isOneOf tabledStems (w ++ [ch, 'i', 'e']) = false := by
      rw [append_pair]
      exact isOneOf_append _ _ (tabledStems_y _ (by simp)) _
    rw [roundTrip_stem lower regular stem free]
    simp [endsWith, List.isSuffixOf, dropEnd, List.take_length_add_append]

end

section

variable {t : List Char}
  (plain : endsInAny t ("s" :: "y" :: changedEndings.map (·.1)) = false)

include plain

theorem pluralStem_plain : pluralStem t = t := by
  simp only [changedEndings, List.map_cons, List.map_nil, endsInAny_cons, endsInAny_nil,
    Bool.or_eq_false_iff] at plain
  simp only [pluralStem, endsInAny_cons, endsInAny_nil, plain, Bool.or_false,
    Bool.false_eq_true, if_false]

theorem isUnambiguous_plain (free : isOneOf tabledStems t = false) :
    isUnambiguous t = !(endsInAny t ["ie"] || endsInAny t ["che", "she", "xe", "ze"]) := by
  have other : t ≠ ['y'] := by
    rintro rfl
    cases plain
  simp only [changedEndings, List.map_cons, List.map_nil, endsInAny_cons, endsInAny_nil,
    Bool.or_eq_false_iff] at plain
  simp only [isUnambiguous, ambiguousEndings, endsInAny_cons, endsInAny_nil, plain,
    isOneOf_ambiguousWords free other, Bool.false_or, Bool.or_false, Bool.not_false, Bool.true_and]

/-- A word whose plural is made by an `s` alone comes back unless the `s` makes an ending that is
taken back in another way. -/
theorem roundTrip_plain (lower : IsLower t) (regular : irregularPlural? t = none)
    (nonempty : t ≠ []) (free : isOneOf tabledStems t = false) :
    singularSegment (pluralSegment t) = t ↔ isUnambiguous t = true ∨ t = ['i', 'e'] := by
  have noS : endsInAny t ["s"] = false := by
    rw [endsInAny_cons, Bool.or_eq_false_iff] at plain
    rw [endsInAny_cons, plain.1, endsInAny_nil, Bool.or_false]
  rw [roundTrip_stem lower regular (pluralStem_plain plain) free, noS,
    isUnambiguous_plain plain free]
  by_cases ie : endsInAny t ["ie"] = true
  · obtain ⟨_, mem, w, rfl⟩ := endsInAny_iff.mp ie
    rw [List.mem_singleton.mp mem] at ie ⊢
    change (if false = true then _ else _) = w ++ ['i', 'e'] ↔ _ ∨ w ++ ['i', 'e'] = _
    cases w with
    | nil => decide +kernel
    | cons ch w =>
      have longer : w ++ ['i', 'e'] ≠ ['e'] := by
        intro same
        have lengths := congrArg List.length same
        simp at lengths
      rw [ie]
      simp [dropEnd, longer]
  · rw [Bool.not_eq_true] at ie
    have other : t ≠ ['i', 'e'] := by
      rintro rfl
      cases ie
    by_cases sibilant : endsInAny t ["che", "she", "xe", "ze"] = true
    · have shorter : dropEnd 1 t ≠ t := by
        intro same
        have lengths := congrArg List.length same
        have positive := List.length_pos_iff.mpr nonempty
        simp only [dropEnd, List.length_take] at lengths
        omega
      simp [ie, sibilant, shorter, other]
    · simp [ie, sibilant]

end

/-- **A regular word** comes back from its plural if and only if its plural is not taken for that of
another, or it is `ie`: a plural of three letters has no ending `ies`. -/
theorem roundTrip_iff {t : List Char} (lower : IsLower t) (nonempty : t ≠ [])
    (regular : irregularPlural? t = none) :
    singularSegment (pluralSegment t) = t ↔ isUnambiguous t = true ∨ t = ['i', 'e'] := by
  by_cases s : ['s'] <:+ t
  · obtain ⟨w, rfl⟩ := s
    have other : w ++ ['s'] ≠ ['i', 'e'] := append_ne rfl w
    rw [roundTrip_s w lower regular]
    simp [isUnambiguous, endsWith, List.isSuffixOf, ambiguousEndings, other]
  by_cases y : ['y'] <:+ t
  · obtain ⟨w, rfl⟩ := y
    rcases List.eq_nil_or_concat w with rfl | ⟨w, ch, rfl⟩
    · decide +kernel
    · rw [List.concat_eq_append, List.append_assoc] at lower regular ⊢
      exact iff_of_true (roundTrip_y w ch lower regular) (Or.inl (isUnambiguous_y w ch))
  by_cases changed : ∃ row ∈ changedEndings, row.1.toList <:+ t
  · obtain ⟨row, mem, w, rfl⟩ := changed
    have free := List.all_eq_true.mp changedEndings_free row mem
    simp only [Bool.and_eq_true, Bool.not_eq_true'] at free
    have other : w ++ row.1.toList ≠ ['i', 'e'] := append_ne free.2 w
    rw [roundTrip_changed w mem lower regular, isUnambiguous_changed w row mem,
      List.append_cancel_left_eq, String.toList_inj, beq_iff_eq, eq_comm, or_iff_left other]
  by_cases tabled : isOneOf tabledStems t = true
  · obtain ⟨u, mem, rfl⟩ := isOneOf_iff.mp tabled
    obtain ⟨lost, ambiguous, other⟩ := roundTrip_tabled u mem
    refine iff_of_false lost ?_
    rw [ambiguous, or_iff_right Bool.false_ne_true]
    exact other
  · rw [Bool.not_eq_true] at tabled
    refine roundTrip_plain ?_ lower regular nonempty tabled
    rw [← Bool.not_eq_true, endsInAny_iff]
    rintro ⟨ending, mem, ends⟩
    simp only [List.mem_cons, List.mem_map] at mem
    rcases mem with rfl | rfl | ⟨row, mem, rfl⟩
    · exact s ends
    · exact y ends
    · exact changed ⟨row, mem, ends⟩

/-! ## Names -/

/-- What stands up to the last underscore plays no part in the way there and back. -/
theorem singularize_pluralize_front {front last : String}
    (cut : front = "" ∨ ∃ before, front = before ++ "_") (whole : '_' ∉ last.toList)
    (nonempty : last ≠ "") :
    singularize (pluralize (front ++ last)) =
      front ++ String.ofList (singularSegment (pluralSegment last.toList)) := by
  have wholePlural := (inflected_whole whole).1
  have there : pluralize (front ++ last) = front ++ pluralize last :=
    inflectLast_front pluralSegment cut whole
  have back : singularize (front ++ pluralize last) = front ++ singularize (pluralize last) :=
    inflectLast_front singularSegment cut wholePlural
  have plural : pluralize last = String.ofList (pluralSegment last.toList) :=
    inflectLast_whole whole fun empty => absurd empty nonempty
  have singular : singularize (pluralize last) =
      String.ofList (singularSegment (pluralize last).toList) :=
    inflectLast_whole wholePlural fun _ => rfl
  rw [there, back, singular, plural, String.toList_ofList]

/-- **Singular and plural.** Inflection leaves all of a name up to its last underscore as it is. If
what follows is not empty and has no capitals, the singular of the plural is the name again if and
only if what follows is an irregular word, or is not ambiguous as a whole or by its ending, or is
`ie`. -/
theorem singularize_pluralize {front last : String}
    (cut : front = "" ∨ ∃ before, front = before ++ "_") (whole : '_' ∉ last.toList) :
    (pluralize (front ++ last) = front ++ pluralize last ∧ '_' ∉ (pluralize last).toList) ∧
    (singularize (front ++ last) = front ++ singularize last ∧
      '_' ∉ (singularize last).toList) ∧
    (last ≠ "" → IsLower last.toList →
      (singularize (pluralize (front ++ last)) = front ++ last ↔
        (∃ plural, (last, plural) ∈ irregularPlurals) ∨
        (last ∉ ambiguousWords ∧ ∀ ending ∈ ambiguousEndings, ¬ ending.toList <:+ last.toList) ∨
        last = "ie")) := by
  obtain ⟨wholePlural, wholeSingular⟩ := inflected_whole whole
  refine ⟨⟨inflectLast_front _ cut whole, wholePlural⟩,
    ⟨inflectLast_front _ cut whole, wholeSingular⟩, ?_⟩
  intro nonempty lower
  rw [singularize_pluralize_front cut whole nonempty, String.append_right_inj,
    ← String.toList_inj, String.toList_ofList]
  by_cases irregular : ∃ plural, (last, plural) ∈ irregularPlurals
  · obtain ⟨plural, mem⟩ := irregular
    have back := List.all_eq_true.mp roundTrip_irregular (last, plural) mem
    exact iff_of_true (beq_iff_eq.mp back) (Or.inl ⟨plural, mem⟩)
  · have regular : irregularPlural? last.toList = none := by
      apply irregularPlural?_none
      rintro ⟨_, plural⟩ mem rfl
      exact irregular ⟨plural, mem⟩
    have letters : last.toList ≠ [] := fun empty => nonempty (String.toList_eq_nil_iff.mp empty)
    have ie : last.toList = ['i', 'e'] ↔ last = "ie" := by
      rw [← String.toList_inj]
      rfl
    rw [roundTrip_iff lower letters regular, isUnambiguous_iff, ie, or_iff_right irregular]

/-- A regular word with a changed ending and an irregular one, each after an underscore. -/
theorem singularize_pluralize_orderCategory :
    (∃ before, "order_" = before ++ "_") ∧ '_' ∉ "category".toList ∧ '_' ∉ "index".toList ∧
      IsLower "category".toList ∧ IsLower "index".toList ∧
      singularize (pluralize "order_category") = "order_category" ∧
      singularize (pluralize "order_index") = "order_index" := by
  have cut : ∃ before, "order_" = before ++ "_" := ⟨"order", by simp⟩
  have category : '_' ∉ "category".toList := by simp
  have index : '_' ∉ "index".toList := by simp
  have lowerCategory : IsLower "category".toList := by simp [IsLower]
  have lowerIndex : IsLower "index".toList := by simp [IsLower]
  refine ⟨cut, category, index, lowerCategory, lowerIndex, ?_, ?_⟩
  · have there := (singularize_pluralize (Or.inr cut) category).2.2 (by decide) lowerCategory
    refine there.mpr (Or.inr (Or.inl ⟨by simp [ambiguousWords], ?_⟩))
    simp [ambiguousEndings, ← List.isSuffixOf_iff_suffix, List.isSuffixOf]
  · have there := (singularize_pluralize (Or.inr cut) index).2.2 (by decide) lowerIndex
    exact there.mpr (Or.inl ⟨"indices", by simp [irregularPlurals]⟩)

example : singularize (pluralize "super_hero") = "super_heroe" := by decide +kernel

end Formwright
