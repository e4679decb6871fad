import Mathlib.Tactic.SplitIfs
import Formwright.Proofs.Markup.Reading

/-!
# What markup says

The reader of tags passes over the text between them. Here the text is kept: a markup is read as its
tags, each with the text up to the next one, and references are resolved in attributes and in text,
so that what comes out is what was to be said and not how it had to be written. A clean tree is read
as what it says.

- `Reader.unescape`: a text with its references resolved; `unescape_escape`.
- `Token`, `Reader.scan`: the reader of tags, with the characters between them.
- `Span`, `Reader.spans`: tags with the text after them.
- `Html.spansAll`: what a tree says; `spans_writeAll`.
-/

namespace Formwright

namespace Reader

/-! ## References -/

/-- Characters that are referred to by a name. -/
def namedReferences : List (String × Char) :=
  [("amp", '&'), ("lt", '<'), ("gt", '>'), ("quot", '"'), ("apos", '\'')]

/-- The character that a reference stands for, by its name or its decimal number. -/
def referenced? : List Char → Option Char
  | '#' :: digits =>
    if digits.isEmpty || !digits.all Char.isDigit then none
    else some (Char.ofNat (Nat.ofDigitChars 10 digits 0))
  | name => namedReferences.lookup (String.ofList name)

/-- Resolves references, given what was read of one so far. What is no reference stays. -/
def resolve : Option (List Char) → List Char → List Char
  | none, [] => []
  | some name, [] => '&' :: name
  | none, c :: cs => if c = '&' then resolve (some []) cs else c :: resolve none cs
  | some name, c :: cs =>
    if c = ';' then
      match referenced? name with
      | some referenced => referenced :: resolve none cs
      | none => '&' :: (name ++ ';' :: resolve none cs)
    else if c = '&' then '&' :: (name ++ resolve (some []) cs)
    else resolve (some (name ++ [c])) cs

/-- A text with its references resolved. -/
def unescape (s : String) : String := String.ofList (resolve none s.toList)

@[simp] theorem unescape_nothing : unescape "" = "" := rfl

theorem resolve_escapedChar (c : Char) (cs : List Char) :
    resolve none (escapedChar c ++ cs) = c :: resolve none cs := by
  unfold escapedChar
  by_cases amp : c = '&'
  · subst amp; rfl
  by_cases lt : c = '<'
  · subst lt; rfl
  by_cases gt : c = '>'
  · subst gt; rfl
  by_cases quote : c = '"'
  · subst quote; rfl
  by_cases apostrophe : c = '\''
  · subst apostrophe; rfl
  · simp [amp, lt, gt, quote, apostrophe, resolve]

@[simp] theorem unescape_escape (s : String) : unescape (escape s) = s := by
  have resolved : ∀ cs : List Char, resolve none (cs.flatMap escapedChar) = cs := by
    intro cs
    induction cs with
    | nil => rfl
    | cons c cs ih => rw [List.flatMap_cons, resolve_escapedChar, ih]
  rw [unescape, escape, String.toList_ofList, resolved, String.ofList_toList]

end Reader

/-! ## Tags and the characters between them -/

/-- A character between tags, or a tag. -/
inductive Token where
  | char (c : Char)
  | tag (t : Tag)
  deriving DecidableEq, Repr

namespace Reader

/-- What is read with one character: itself between tags, or a tag that ends with it. -/
def added (p : Place) (c : Char) (s : State) : List Token :=
  match p, s.place with
  | .text, .text => [.char c]
  | _, _ => s.tags.map .tag

/-- Reads characters one after the other: where the reader is then, and what was read. -/
def scan : Place → List Char → Option (Place × List Token)
  | p, [] => some (p, [])
  | p, c :: cs =>
    (step ⟨p, []⟩ c).bind fun s => (scan s.place cs).map fun r => (r.1, added p c s ++ r.2)

theorem scan_append (p : Place) (cs ds : List Char) :
    scan p (cs ++ ds) =
      (scan p cs).bind fun r => (scan r.1 ds).map fun u => (u.1, r.2 ++ u.2) := by
  induction cs generalizing p with
  | nil => simp [scan]
  | cons c cs ih =>
    rw [List.cons_append, scan, scan]
    cases step ⟨p, []⟩ c with
    | none => rfl
    | some s =>
      simp only [Option.bind_some, ih s.place]
      cases scan s.place cs with
      | none => rfl
      | some r =>
        simp only [Option.bind_some, Option.map_some]
        cases scan r.1 ds with
        | none => rfl
        | some u => simp only [Option.map_some, List.append_assoc]

theorem scan_text {cs : List Char} (h : ∀ c ∈ cs, isInert c = true) :
    scan .text cs = some (.text, cs.map .char) := by
  induction cs with
  | nil => rfl
  | cons c cs ih =>
    have inert : isInert c = true := h c List.mem_cons_self
    have other : c ≠ '<' := by rintro rfl; revert inert; decide
    rw [scan, step, if_neg other, if_pos inert, Option.bind_some,
      ih fun d hd => h d (List.mem_cons_of_mem c hd)]
    rfl

/-- Inside a tag nothing is read before its end. -/
theorem step_inside {p : Place} {c : Char} {s : State} (inside : p ≠ .text) (goesOn : c ≠ '>')
    (h : step ⟨p, []⟩ c = some s) : s.place ≠ .text ∧ s.tags = [] := by
  cases p with
  | text => exact absurd rfl inside
  | _ =>
    simp only [step, if_neg goesOn] at h
    split_ifs at h
    all_goals
      cases h
      exact ⟨by simp, rfl⟩

theorem scan_inside {p : Place} {cs : List Char} {s : State} (inside : p ≠ .text)
    (goesOn : ∀ c ∈ cs, c ≠ '>') (h : run ⟨p, []⟩ cs = some s) :
    scan p cs = some (s.place, []) ∧ s.place ≠ .text ∧ s.tags = [] := by
  induction cs generalizing p with
  | nil =>
    cases h
    exact ⟨rfl, inside, rfl⟩
  | cons c cs ih =>
    rw [run_cons] at h
    obtain ⟨t, stepped, h⟩ := Option.bind_eq_some_iff.mp h
    obtain ⟨place, tags⟩ := t
    obtain ⟨still, rfl⟩ := step_inside inside (goesOn c List.mem_cons_self) stepped
    obtain ⟨scanned, rest⟩ := ih still (fun d hd => goesOn d (List.mem_cons_of_mem c hd)) h
    refine ⟨?_, rest⟩
    rw [scan, stepped, Option.bind_some, scanned]
    cases p with
    | text => exact absurd rfl inside
    | _ => rfl

/-- A tag is read as such: a text that is read as one tag when text is passed over, and does not end
before its end. -/
theorem scan_tag {middle : List Char} {t : Tag} (goesOn : ∀ c ∈ middle, c ≠ '>')
    (h : run ⟨.text, []⟩ ('<' :: (middle ++ ['>'])) = some ⟨.text, [t]⟩) :
    scan .text ('<' :: (middle ++ ['>'])) = some (.text, [.tag t]) := by
  rw [run_cons, step, if_pos rfl, Option.bind_some, run_append] at h
  obtain ⟨⟨place, tags⟩, ran, h⟩ := Option.bind_eq_some_iff.mp h
  obtain ⟨scanned, inside, rfl⟩ := scan_inside (by simp) goesOn ran
  rw [run_cons] at h
  obtain ⟨last, stepped, h⟩ := Option.bind_eq_some_iff.mp h
  cases h
  rw [scan, step, if_pos rfl, Option.bind_some, scan_append, scanned, Option.bind_some, scan,
    stepped]
  cases place with
  | text => exact absurd rfl inside
  | _ => rfl

theorem inert_goesOn {c : Char} (inert : isInert c = true) : c ≠ '>' := by
  rintro rfl
  revert inert
  decide

theorem isInert_of_isNameChar {c : Char} (h : isNameChar c = true) : isInert c = true := by
  simp only [isNameChar, Bool.and_eq_true] at h
  exact h.1.1.1.1.1.1.1.1.1

theorem writeAttrs_goesOn {as : List Attr} (clean : ∀ a ∈ as, a.Clean) :
    ∀ c ∈ (writeAttrs as).toList, c ≠ '>' := by
  induction as with
  | nil => simp [writeAttrs]
  | cons a as ih =>
    have own := clean a List.mem_cons_self
    intro c mem
    rw [writeAttrs, String.toList_append, List.mem_append] at mem
    rcases mem with mem | mem
    · simp only [Attr.write, String.toList_append, List.mem_append] at mem
      rcases mem with (((mem | mem) | mem) | mem) | mem
      · rw [List.mem_singleton.mp mem]; decide
      · exact inert_goesOn (isInert_of_isNameChar (own.name c mem))
      · rcases List.mem_cons.mp mem with rfl | mem
        · decide
        · rw [List.mem_singleton.mp mem]; decide
      · exact inert_goesOn (inert_writePieces own.value c mem)
      · rw [List.mem_singleton.mp mem]; decide
    · exact ih (fun b hb => clean b (List.mem_cons_of_mem a hb)) c mem

theorem tag_goesOn {tag : String} (known : tag ∈ "input" :: elementTags) :
    ∀ c ∈ tag.toList, c ≠ '>' := by
  obtain ⟨d, ds, name, first, -, rest⟩ := tagChars_of_mem known
  rintro c mem rfl
  rw [name] at mem
  rcases List.mem_cons.mp mem with eq | mem
  · rw [← eq] at first
    revert first
    decide
  · have tagChar := rest '>' mem
    revert tagChar
    decide

theorem scan_start {tag : String} (known : tag ∈ "input" :: elementTags) {as : List Attr}
    (clean : ∀ a ∈ as, a.Clean) : scan .text ("<" ++ tag ++ writeAttrs as ++ ">").toList =
      some (.text, [.tag (.start tag (as.map Attr.written))]) := by
  have ran := run_start known clean []
  have parts : ("<" ++ tag ++ writeAttrs as ++ ">").toList =
      '<' :: ((tag.toList ++ (writeAttrs as).toList) ++ ['>']) := by simp
  rw [parts] at ran ⊢
  refine scan_tag (fun c mem => ?_) ran
  rcases List.mem_append.mp mem with mem | mem
  · exact tag_goesOn known c mem
  · exact writeAttrs_goesOn clean c mem

theorem scan_finish {tag : String} (known : tag ∈ "input" :: elementTags) :
    scan .text ("</" ++ tag ++ ">").toList = some (.text, [.tag (.finish tag)]) := by
  have ran := run_finish known []
  have parts : ("</" ++ tag ++ ">").toList = '<' :: (('/' :: tag.toList) ++ ['>']) := by simp
  rw [parts] at ran ⊢
  refine scan_tag (fun c mem => ?_) ran
  rcases List.mem_cons.mp mem with rfl | mem
  · decide
  · exact tag_goesOn known c mem

end Reader

namespace Html

mutual

/-- The tags of a tree and the characters between them, in document order. -/
def tokens : Html → List Token
  | .piece p => p.write.toList.map .char
  | .element tag attrs body =>
    .tag (.start tag (attrs.map Attr.written)) :: (tokensAll body ++ [.tag (.finish tag)])
  | .void tag attrs => [.tag (.start tag (attrs.map Attr.written))]

/-- The tags of trees in a row and the characters between them. -/
def tokensAll : List Html → List Token
  | [] => []
  | h :: rest => h.tokens ++ tokensAll rest

end

theorem tokensAll_append (xs ys : List Html) :
    tokensAll (xs ++ ys) = tokensAll xs ++ tokensAll ys := by
  induction xs with
  | nil => rfl
  | cons x xs ih => simp only [List.cons_append, tokensAll, ih, List.append_assoc]

theorem tokens_lineFeed : lineFeed.tokens = [.char '\n'] := rfl

/-- An element around one piece. -/
theorem tokens_around (tag : String) (attrs : List Attr) (p : Piece) :
    (Html.element tag attrs [.piece p]).tokens =
      .tag (.start tag (attrs.map Attr.written)) ::
        (p.write.toList.map .char ++ [.tag (.finish tag)]) := by
  simp only [tokens, tokensAll, List.append_nil]

end Html

namespace Reader

mutual

/-- **Reading all of it.** The text of a clean tree is read as its tags and characters. -/
theorem scan_write : ∀ (h : Html), h.Clean → scan .text h.write.toList = some (.text, h.tokens)
  | .piece p, clean => by
    rw [Html.write, scan_text clean, Html.tokens]
  | .void tag attrs, ⟨isInput, clean⟩ => by
    rw [Html.write, Html.tokens]
    exact scan_start (isInput ▸ List.mem_cons_self) clean
  | .element tag attrs body, ⟨known, clean, cleanBody⟩ => by
    have known := List.mem_cons_of_mem "input" known
    have parts : (Html.element tag attrs body).write.toList =
        ("<" ++ tag ++ writeAttrs attrs ++ ">").toList ++
          ((Html.writeAll body).toList ++ ("</" ++ tag ++ ">").toList) := by
      simp [Html.write]
    rw [parts, scan_append, scan_start known clean, Option.bind_some, scan_append,
      scan_writeAll body cleanBody, Option.bind_some, scan_finish known, Html.tokens]
    rfl

theorem scan_writeAll : ∀ (hs : List Html), Html.CleanAll hs →
    scan .text (Html.writeAll hs).toList = some (.text, Html.tokensAll hs)
  | [], _ => by simp [Html.writeAll, Html.tokensAll, scan]
  | h :: rest, ⟨clean, cleanRest⟩ => by
    rw [Html.writeAll, String.toList_append, scan_append, scan_write h clean, Option.bind_some,
      scan_writeAll rest cleanRest, Html.tokensAll]
    rfl

end

end Reader

/-! ## Tags and what follows them -/

/-- The tag with the references in its attributes resolved. -/
def Tag.unescaped : Tag → Tag
  | .start name attrs => .start name (attrs.map fun a => (Reader.unescape a.1, Reader.unescape a.2))
  | .finish name => .finish name

/-- A tag and the text after it up to the next one, with references resolved in both. -/
structure Span where
  tag : Tag
  text : String
  deriving DecidableEq, Repr

namespace Reader

/-- The characters before the first tag, and the tags with what follows them. -/
def group : List Token → List Char × List Span
  | [] => ([], [])
  | .char c :: rest => (c :: (group rest).1, (group rest).2)
  | .tag t :: rest =>
    ([], ⟨t.unescaped, unescape (String.ofList (group rest).1)⟩ :: (group rest).2)

/-- The tags of a text with what follows them, if it can be read to the end. -/
def spans (markup : String) : Option (List Span) :=
  match scan .text markup.toList with
  | some (.text, tokens) => some (group tokens).2
  | _ => none

@[simp] theorem group_chars (cs : List Char) (rest : List Token) :
    group (cs.map .char ++ rest) = (cs ++ (group rest).1, (group rest).2) := by
  induction cs with
  | nil => rfl
  | cons c cs ih => simp only [List.map_cons, List.cons_append, group, ih]

@[simp] theorem group_tag (t : Tag) (rest : List Token) : group (.tag t :: rest) =
    ([], ⟨t.unescaped, unescape (String.ofList (group rest).1)⟩ :: (group rest).2) := rfl

/-- What starts with a tag adds nothing to what is before it. -/
theorem group_append (xs : List Token) {ys : List Token} (apart : (group ys).1 = []) :
    group (xs ++ ys) = ((group xs).1, (group xs).2 ++ (group ys).2) := by
  induction xs with
  | nil => exact Prod.ext apart rfl
  | cons x xs ih =>
    cases x with
    | char c => simp only [List.cons_append, group, ih]
    | tag t => simp only [List.cons_append, group, ih]

end Reader

namespace Html

/-- What trees in a row say: their tags with what follows them. -/
def spansAll (hs : List Html) : List Span := (Reader.group (tokensAll hs)).2

/-- Trees of which the second ones start with a tag, or with nothing, are read apart. -/
theorem spansAll_append (xs : List Html) {ys : List Html}
    (apart : (Reader.group (tokensAll ys)).1 = []) :
    spansAll (xs ++ ys) = spansAll xs ++ spansAll ys := by
  rw [spansAll, tokensAll_append, Reader.group_append _ apart]
  rfl

end Html

/-- **Reading back what is said.** The text of clean trees is read as what they say. -/
theorem Reader.spans_writeAll {hs : List Html} (clean : Html.CleanAll hs) :
    spans (Html.writeAll hs) = some (Html.spansAll hs) := by
  rw [spans, scan_writeAll hs clean]
  rfl

theorem Attr.unescape_written (name value : String) :
    ((Attr.mk (.text name) [.text value]).written.map Reader.unescape Reader.unescape) =
      (name, value) := by
  simp [Attr.written, Piece.write, writePieces]

end Formwright
