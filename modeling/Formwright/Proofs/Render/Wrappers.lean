import Formwright.Proofs.Markup.Filling
import Formwright.Proofs.Render.Agreement
import Formwright.Proofs.Render.Rows

/-!
# Files that wrap built-in templates

A project file may be nothing but a tag that includes a built-in template, with or without a line
break after it. It is read as that one tag: blanks within the tag mean nothing, and neither a line
break nor anything else is left of the text around it. So the file is filled as the template is, and
a project of such files draws every form as it is drawn without a project.

- `Includes`: texts that are nothing but an include.
- `segments_include`: how they are read.
- `Theme.Wraps`, `Theme.fill_wrapped`: projects in which all files are such texts.
- `form_wrapped`: forms.
-/

namespace Formwright

open Outcome Template Text

/-! ## Reading a tag -/

/-- The text is nothing but a tag that includes a name, with or without a line break after it. The
name stands between quotes of either kind. -/
inductive Includes (name : String) : String → Prop where
  | tag (before between quote after ending : String)
      (blank : allBlank before = true ∧ allBlank between = true ∧ allBlank after = true)
      (quoted : quote = "\"" ∨ quote = "'") (ends : ending ∈ ["", "\n", "\r\n", "\r"]) :
      Includes name ("\x7b%" ++ before ++ "include" ++ between ++ quote ++ name ++ quote ++ after ++
        "%\x7d" ++ ending)

namespace Segment

variable {cs : List Char} {before between after name : List Char} {quote : Char}

theorem mem_quotes : quote ∈ quotes ↔ quote = '"' ∨ quote = '\'' := by simp [quotes]

/-- The characters of a tag that includes a name. -/
def tagChars (before between : List Char) (quote : Char) (name after : List Char) : List Char :=
  '\x7b' :: '%' :: (before ++ ("include".toList ++ (between ++ (quote :: (name ++ (quote ::
    (after ++ ['%', '\x7d'])))))))

theorem dropWhile_blank (blank : cs.all isBlank = true) {c : Char} (other : isBlank c = false)
    (rest : List Char) : (cs ++ c :: rest).dropWhile isBlank = c :: rest := by
  rw [List.dropWhile_append_of_pos (List.all_eq_true.mp blank), List.dropWhile_cons_of_neg]
  simp [other]

theorem tag?_tagChars (blankBefore : before.all isBlank = true)
    (blankBetween : between.all isBlank = true) (blankAfter : after.all isBlank = true)
    (quoted : quote ∈ quotes) (unquoted : quote ∉ name) :
    tag? (tagChars before between quote name after) =
      some (String.ofList name, (tagChars before between quote name after).length) := by
  have taken : ∀ rest, (name ++ quote :: rest).takeWhile (· != quote) = name := by
    intro rest
    rw [List.takeWhile_append_of_pos, List.takeWhile_cons_of_neg (by simp), List.append_nil]
    intro c mem
    simpa using ne_of_mem_of_not_mem mem unquoted
  have dropped : ∀ rest, (name ++ quote :: rest).drop (name.length + 1) = rest := by
    intro rest
    rw [← List.drop_drop, List.drop_left]
    rfl
  have visible : isBlank quote = false := by
    rcases mem_quotes.mp quoted with rfl | rfl
    · decide
    · decide
  have word : "include".toList = ['i', 'n', 'c', 'l', 'u', 'd', 'e'] := rfl
  simp only [tag?, tagChars, word, List.cons_append, List.nil_append]
  simp only [dropWhile_blank blankBefore (c := 'i') (by decide)]
  simp only [dropWhile_blank blankBetween visible, List.contains_eq_mem, quoted, decide_true,
    if_true]
  rw [taken, dropped, dropWhile_blank blankAfter (by decide)]
  rfl

theorem split_tagChars (blankBefore : before.all isBlank = true)
    (blankBetween : between.all isBlank = true) (blankAfter : after.all isBlank = true)
    (quoted : quote ∈ quotes) (unquoted : quote ∉ name) :
    split 0 true [] (tagChars before between quote name after) =
      [.embed (String.ofList name)] := by
  have passed : ∀ (cs : List Char) (fresh : Bool), split cs.length fresh [] cs = [] := by
    intro cs
    induction cs with
    | nil => exact fun _ => rfl
    | cons c cs ih => exact fun _ => ih _
  have read := tag?_tagChars blankBefore blankBetween blankAfter quoted unquoted
  unfold tagChars at read ⊢
  rw [split, read]
  exact congrArg (_ :: ·) (passed _ _)

/-! ## Line breaks around a tag -/

theorem unixLines_cons {c : Char} (other : c ≠ '\r') (cs : List Char) :
    unixLines (c :: cs) = c :: unixLines cs :=
  unixLines.eq_3 c cs (fun _ same => absurd same other) other

theorem unixLines_append {c : Char} (next : c ≠ '\n') (other : c ≠ '\r') (rest : List Char) :
    unixLines (cs ++ c :: rest) = unixLines cs ++ c :: unixLines rest := by
  rw [← unixLines_cons other]
  induction cs using unixLines.induct with
  | case1 cs ih => exact congrArg ('\n' :: ·) ih
  | case2 cs alone ih =>
    have alone' : ∀ after, cs ++ c :: rest = '\n' :: after → False := by
      intro after starts
      cases cs with
      | nil => exact next (List.cons.inj starts).1
      | cons c cs => exact alone cs (congrArg (· :: cs) (List.cons.inj starts).1)
    rw [List.cons_append, unixLines.eq_2 _ alone', unixLines.eq_2 _ alone, ih]
    rfl
  | case3 d cs noBreak other ih =>
    rw [List.cons_append, unixLines_cons other, unixLines_cons other, ih]
    rfl
  | case4 => rfl

theorem unixLines_of_notMem (unbroken : '\r' ∉ cs) : unixLines cs = cs := by
  induction cs with
  | nil => rfl
  | cons c cs ih =>
    rw [List.mem_cons, not_or] at unbroken
    rw [unixLines_cons (Ne.symm unbroken.1), ih unbroken.2]

theorem unixLines_blank (blank : cs.all isBlank = true) : (unixLines cs).all isBlank = true := by
  induction cs using unixLines.induct with
  | case1 cs ih =>
    rw [List.all_cons, List.all_cons, Bool.and_eq_true, Bool.and_eq_true] at blank
    exact ih blank.2.2
  | case2 cs alone ih =>
    rw [List.all_cons, Bool.and_eq_true] at blank
    rw [unixLines.eq_2 _ alone]
    exact ih blank.2
  | case3 c cs noBreak other ih =>
    rw [List.all_cons, Bool.and_eq_true] at blank
    rw [unixLines_cons other, List.all_cons, blank.1, ih blank.2]
    rfl
  | case4 => rfl

theorem unixLines_tagChars (quoted : quote ∈ quotes) (unbroken : '\r' ∉ name)
    (ending : List Char) :
    unixLines (tagChars before between quote name after ++ ending) =
      tagChars (unixLines before) (unixLines between) quote name (unixLines after) ++
        unixLines ending := by
  have word : "include".toList = ['i', 'n', 'c', 'l', 'u', 'd', 'e'] := rfl
  have other : quote ≠ '\n' ∧ quote ≠ '\r' := by
    rcases mem_quotes.mp quoted with rfl | rfl
    · decide
    · decide
  simp [tagChars, word, unixLines_append, unixLines_cons, unixLines_of_notMem unbroken, other]

/-- A line break after a tag is dropped. -/
theorem dropFinal_tagChars {ending : List Char} (ends : ending = [] ∨ ending = ['\n']) :
    dropFinalLineFeed (tagChars before between quote name after ++ ending) =
      tagChars before between quote name after := by
  rcases ends with rfl | rfl
  · have other : endsWith (tagChars before between quote name after) ['\n'] = false := by
      simp [tagChars, endsWith, List.isSuffixOf, List.isPrefixOf]
    rw [List.append_nil, dropFinalLineFeed, other]
    rfl
  · have ended : endsWith (tagChars before between quote name after ++ ['\n']) ['\n'] = true :=
      List.isSuffixOf_iff_suffix.mpr (List.suffix_append _ _)
    rw [dropFinalLineFeed, if_pos ended, dropEnd, List.length_append]
    exact List.take_left

end Segment

/-- **An include is read as one tag.** -/
theorem segments_include {source name : String} (h : Includes name source)
    (unquoted : '"' ∉ name.toList ∧ '\'' ∉ name.toList) (unbroken : '\r' ∉ name.toList) :
    segments source = [.embed name] := by
  obtain ⟨before, between, quote, after, ending, ⟨blankBefore, blankBetween, blankAfter⟩, quoted,
    ends⟩ := h
  obtain ⟨mark, isQuote, unmarked, rfl⟩ :
      ∃ mark ∈ Segment.quotes, mark ∉ name.toList ∧ quote = String.ofList [mark] := by
    rcases quoted with rfl | rfl
    · exact ⟨'"', Segment.mem_quotes.mpr (.inl rfl), unquoted.1, rfl⟩
    · exact ⟨'\'', Segment.mem_quotes.mpr (.inr rfl), unquoted.2, rfl⟩
  have written : ("\x7b%" ++ before ++ "include" ++ between ++ String.ofList [mark] ++ name ++
      String.ofList [mark] ++ after ++ "%\x7d" ++ ending).toList =
        Segment.tagChars before.toList between.toList mark name.toList after.toList ++
          ending.toList := by simp [Segment.tagChars]
  have ended : Segment.unixLines ending.toList = [] ∨ Segment.unixLines ending.toList = ['\n'] := by
    simp only [List.mem_cons, List.not_mem_nil, or_false] at ends
    rcases ends with rfl | rfl | rfl | rfl <;> decide
  rw [segments, written, Segment.unixLines_tagChars isQuote unbroken,
    Segment.dropFinal_tagChars ended,
    Segment.split_tagChars (Segment.unixLines_blank blankBefore)
      (Segment.unixLines_blank blankBetween) (Segment.unixLines_blank blankAfter) isQuote unmarked,
    String.ofList_toList]

/-! ## Projects of wrappers -/

namespace Theme

/-- Every file includes the built-in template whose name it has, and nothing else. -/
def Wraps (files : List (String × String)) : Prop :=
  ∀ file ∈ files, file.1 ∈ Template.builtIn.map (·.1) ∧ Includes ("af://" ++ file.1) file.2

/-- The names of built-in templates are paths of their own, say that they are markup, and can be
written in a tag. -/
theorem builtIn_names : ∀ name ∈ Template.builtIn.map (·.1),
    templatePath? name = some name ∧ isEscaping name = true ∧ isEscaping ("af://" ++ name) = true ∧
      "af://".toList.isPrefixOf name.toList = false ∧
      ('"' ∉ ("af://" ++ name).toList ∧ '\'' ∉ ("af://" ++ name).toList) ∧
      '\r' ∉ ("af://" ++ name).toList := by
  decide +kernel

variable {name : String} {body : List Node}

theorem builtIn?_name (listed : (name, body) ∈ Template.builtIn) :
    builtIn? name = some (.builtIn body) := by
  have named : name ∈ Template.builtIn.map (·.1) := List.mem_map_of_mem listed
  have once : (Template.builtIn.map (·.1)).Nodup := by decide
  obtain ⟨before, after, split⟩ := List.append_of_mem listed
  have found : Template.builtIn.lookup name = some body := by
    refine List.lookup_eq_some_iff.mpr ⟨before, after, split, fun e mem => ?_⟩
    rw [split, List.map_append, List.map_cons, List.nodup_append] at once
    simpa using (once.2.2 e.1 (List.mem_map_of_mem mem) name List.mem_cons_self).symm
  simp [builtIn?, (builtIn_names name named).1, found]

/-- With the mark a name leads to the built-in template in every theme. -/
theorem find?_marked (theme : Theme) (listed : (name, body) ∈ Template.builtIn) :
    theme.find? ("af://" ++ name) = some (.builtIn body) := by
  have marked : ("af://" ++ name).toList = 'a' :: 'f' :: ':' :: '/' :: '/' :: name.toList := by
    simp
  simp [find?, marked, builtIn?_name listed]

/-- Without the mark a name leads to a file, if there is one, and to the built-in template
otherwise. -/
theorem find?_unmarked (theme : Theme) (listed : (name, body) ∈ Template.builtIn) :
    theme.find? name = (theme.file? name).or (some (.builtIn body)) := by
  have unmarked := (builtIn_names name (List.mem_map_of_mem listed)).2.2.2.1
  unfold find?
  split
  · rename_i rest marked
    rw [marked] at unmarked
    simp [List.isPrefixOf] at unmarked
  · rw [builtIn?_name listed]
    cases theme.file? name <;> rfl

/-- A file of a project of wrappers is the one tag that includes the template of its name. -/
theorem file?_wrapped {files : List (String × String)} (wraps : Wraps files)
    (named : name ∈ Template.builtIn.map (·.1)) :
    (Theme.mk (some files)).file? name = none ∨ files ≠ [] ∧
      (Theme.mk (some files)).file? name = some (.file [.embed ("af://" ++ name)]) := by
  have path := (builtIn_names name named).1
  cases found : files.find? fun f => templatePath? f.1 == some name with
  | none => exact .inl (by simp [file?, path, found])
  | some file =>
    have mem := List.mem_of_find?_eq_some found
    obtain ⟨listed, includes⟩ := wraps file mem
    obtain ⟨own, -, -, -, unquoted, unbroken⟩ := builtIn_names file.1 listed
    have same : file.1 = name := by simpa [own] using List.find?_some found
    refine .inr ⟨List.ne_nil_of_mem mem, ?_⟩
    rw [same] at includes unquoted unbroken
    simp [file?, path, found, segments_include includes unquoted unbroken]

/-- **Wrappers are filled as what they wrap.** -/
theorem fill_wrapped {files : List (String × String)} (wraps : Wraps files)
    (named : name ∈ Template.builtIn.map (·.1)) (scope : Scope) :
    (Theme.mk (some files)).fill name scope = standard.fill name scope := by
  obtain ⟨⟨_, body⟩, listed, rfl⟩ := List.mem_map.mp named
  obtain ⟨-, escaping, escaping', -⟩ := builtIn_names _ named
  rw [standard_fill _ body listed, fill, maxDepth, fillWithin, find?_unmarked _ listed]
  rcases file?_wrapped wraps named with absent | ⟨present, wrapped⟩
  · simp only [absent, Option.none_or, escaping]
  · -- the template is one step further, and there is room for it as there is a file
    obtain ⟨depth, deep⟩ := Nat.exists_eq_add_one.mpr (List.length_pos_iff.mpr present)
    rw [wrapped]
    simp only [Option.some_or, concatM, Option.getD_some, deep, fillWithin,
      find?_marked _ listed, escaping']
    cases Node.fillAll scope true body with
    | error e => rfl
    | ok hs => simp

end Theme

/-! ## Forms -/

namespace Render.Renderer

open Form

/-- The renderer with another theme. -/
def themed (r : Renderer) (theme : Theme) : Renderer :=
  { r with drawing := { r.drawing with theme := theme } }

/-- **Wrappers are transparent.** A project whose files only include the built-in templates of their
names renders every form to the same markup and the same script, or fails with the same fault, as
the built-in templates alone. -/
theorem form_wrapped (r : Renderer) (files : List (String × String)) (wraps : Theme.Wraps files)
    (tree : Tree) (c : Context) :
    (r.themed ⟨some files⟩).form tree c = (r.themed .standard).form tree c := by
  have agree : Agree (r.themed ⟨some files⟩) (r.themed .standard) :=
    ⟨.refl r.schema, ⟨rfl, fun _ named scope => Theme.fill_wrapped wraps named scope⟩, rfl⟩
  exact agree.form tree c

/-- Wrappers of three templates, with quotes of both kinds and several line breaks after them. -/
def wrapperFiles : List (String × String) := [
  ("form/item.html", "\x7b% include \"af://form/item.html\" %\x7d"),
  ("controls/input.html", "\x7b%include'af://controls/input.html'%\x7d\n"),
  ("form/form.html", "\x7b% include\n\"af://form/form.html\" %\x7d\r\n")]

theorem form_wrapped_wrapperFiles :
    Theme.Wraps wrapperFiles ∧
    ∃ out, (addressBook.themed ⟨some wrapperFiles⟩).form contactForm twoPhones = .ok out ∧
      (addressBook.themed .standard).form contactForm twoPhones = .ok out := by
  have wraps : Theme.Wraps wrapperFiles := by
    intro file mem
    simp only [wrapperFiles, List.mem_cons, List.not_mem_nil, or_false] at mem
    rcases mem with rfl | rfl | rfl
    · exact ⟨by decide, .tag " " " " "\"" " " "" (by decide) (.inl rfl) (by decide)⟩
    · exact ⟨by decide, .tag "" "" "'" "" "\n" (by decide) (.inr rfl) (by decide)⟩
    · exact ⟨by decide, .tag " " "\n" "\"" " " "\r\n" (by decide) (.inl rfl) (by decide)⟩
  obtain ⟨out, drawn⟩ : ∃ out,
      (addressBook.themed ⟨some wrapperFiles⟩).form contactForm twoPhones = .ok out :=
    exists_of_isOk (by decide +kernel)
  exact ⟨wraps, out, drawn,
    (form_wrapped addressBook wrapperFiles wraps contactForm twoPhones).symm.trans drawn⟩

end Render.Renderer

end Formwright
