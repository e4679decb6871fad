import Formwright.Proofs.Markup.Decoding
import Formwright.Proofs.Markup.Elements
import Formwright.Proofs.Text.ScriptEscaping

/-!
# The attribute that hides

An element is hidden by one attribute, which is a fixed text in its tag. In the text of a clean tree
this text is found exactly where the attribute was written: it holds quotes, and a quote stands only
around the value of an attribute. Deleting the text is therefore the same as taking the attribute
out of the tree.

- `hidingText`, `Attr.hides`: the attribute as a text and in a tree.
- `Html.reveal`: a tree without it.
- `replaceAll_hidingText`: deleting the text reveals the tree.
- `Html.exposures`: which items and groups of a tree are hidden.
-/

namespace Formwright

open Html Outcome Template Text

/-- The attribute that hides an element, as it stands in a tag. -/
def hidingText : String := " style=\"display: none\""

/-- The attribute is written as the one that hides. -/
def Attr.hides (a : Attr) : Bool :=
  a.name.write == "style" && writePieces a.value == "display: none"

namespace Html

mutual

/-- A tree without the attributes that hide. -/
def reveal : Html → Html
  | .piece p => .piece p
  | .element tag attrs body => .element tag (attrs.filter (!·.hides)) (revealAll body)
  | .void tag attrs => .void tag (attrs.filter (!·.hides))

/-- Trees in a row without the attributes that hide. -/
def revealAll : List Html → List Html
  | [] => []
  | h :: rest => h.reveal :: revealAll rest

end

@[simp] theorem reveal_piece (p : Piece) : (Html.piece p).reveal = .piece p := rfl

@[simp] theorem revealAll_nil : revealAll [] = [] := rfl

@[simp] theorem revealAll_cons (h : Html) (rest : List Html) :
    revealAll (h :: rest) = h.reveal :: revealAll rest := rfl

@[simp] theorem revealAll_append (xs ys : List Html) :
    revealAll (xs ++ ys) = revealAll xs ++ revealAll ys := by
  induction xs with
  | nil => rfl
  | cons x xs ih => simp [ih]

@[simp] theorem reveal_lineFeed : lineFeed.reveal = lineFeed := rfl

theorem revealAll_joinLines (blocks : List (List Html)) :
    revealAll (joinLines blocks) = joinLines (blocks.map revealAll) := by
  induction blocks with
  | nil => rfl
  | cons block rest ih =>
    cases rest with
    | nil => rfl
    | cons next rest =>
      rw [joinLines, revealAll_append, revealAll_cons, ih]
      · rfl
      · simp

end Html

/-! ## Where the text is found -/

section Found

theorem hidingText_chars :
    hidingText.toList =
      ' ' :: ("style".toList ++ '=' :: '"' :: ("display: none".toList ++ ['"'])) := by
  decide

/-- A mark tells two texts apart that it ends. -/
theorem prefix_of_mark {mark : Char} {xs ys xs' ys' : List Char} (left : mark ∉ xs)
    (right : mark ∉ ys) (h : xs ++ mark :: xs' <+: ys ++ mark :: ys') :
    xs = ys ∧ xs' <+: ys' := by
  induction xs generalizing ys with
  | nil =>
    cases ys with
    | nil => exact ⟨rfl, (List.cons_prefix_cons.mp h).2⟩
    | cons y ys =>
      obtain ⟨rfl, -⟩ := List.cons_prefix_cons.mp h
      exact absurd List.mem_cons_self right
  | cons x xs ih =>
    cases ys with
    | nil =>
      obtain ⟨rfl, -⟩ := List.cons_prefix_cons.mp h
      exact absurd List.mem_cons_self left
    | cons y ys =>
      have noneLeft : mark ∉ xs := fun mem => left (List.mem_cons_of_mem x mem)
      have noneRight : mark ∉ ys := fun mem => right (List.mem_cons_of_mem y mem)
      obtain ⟨rfl, others⟩ := List.cons_prefix_cons.mp h
      obtain ⟨rfl, after⟩ := ih noneLeft noneRight others
      exact ⟨rfl, after⟩

/-- Characters are passed over if the pattern begins at none of them. -/
theorem replaceAfter_over {pattern new xs rest : List Char}
    (apart : ∀ s, s ≠ [] → s <:+ xs → ¬ pattern <+: s ++ rest) :
    replaceAfter pattern new 0 (xs ++ rest) = xs ++ replaceAfter pattern new 0 rest := by
  induction xs with
  | nil => rfl
  | cons c cs ih =>
    have others := ih fun s nonempty suffix =>
      apart s nonempty (suffix.trans (List.suffix_cons c cs))
    have first := apart (c :: cs) (List.cons_ne_nil c cs) (List.suffix_refl _)
    rw [List.cons_append] at first
    rw [List.cons_append, replaceAfter_pass first, others, List.cons_append]

/-- What is left of a text with the attribute deleted from it. -/
def deleted (cs : List Char) : List Char := replaceAfter hidingText.toList [] 0 cs

/-- There is no quote before the next tag. -/
def OutsideTag (cs : List Char) : Prop := '"' ∉ cs.takeWhile (· != '<')

variable {cs rest : List Char}

theorem isInert_ne {c : Char} (inert : Reader.isInert c = true) :
    c ≠ '<' ∧ c ≠ '>' ∧ c ≠ '"' := by
  simp only [Reader.isInert, Bool.and_eq_true, bne_iff_ne] at inert
  exact ⟨inert.1.1, inert.1.2, inert.2⟩

theorem OutsideTag.inert_append (inert : ∀ c ∈ cs, Reader.isInert c = true)
    (outside : OutsideTag rest) : OutsideTag (cs ++ rest) := by
  have passed : ∀ c ∈ cs, (c != '<') = true :=
    fun c hc => bne_iff_ne.mpr (isInert_ne (inert c hc)).1
  rw [OutsideTag, List.takeWhile_append_of_pos passed, List.mem_append]
  rintro (found | found)
  · exact (isInert_ne (inert _ found)).2.2 rfl
  · exact outside found

/-- The attribute is not found where there is no quote before the next tag. -/
theorem OutsideTag.notFound (outside : OutsideTag cs) : ¬ hidingText.toList <+: cs := by
  have passed : hidingText.toList.all (· != '<') = true := by decide
  rintro ⟨after, rfl⟩
  refine outside ?_
  rw [List.takeWhile_append_of_pos (List.all_eq_true.mp passed), List.mem_append]
  exact .inl (by decide)

theorem deleted_text (inert : ∀ c ∈ cs, Reader.isInert c = true) (outside : OutsideTag rest) :
    deleted (cs ++ rest) = cs ++ deleted rest := by
  refine replaceAfter_over fun s _ suffix => ?_
  exact (outside.inert_append fun c hc => inert c (suffix.subset hc)).notFound

theorem deleted_tight (tight : ' ' ∉ cs) : deleted (cs ++ rest) = cs ++ deleted rest := by
  refine replaceAfter_over fun s nonempty suffix found => tight ?_
  obtain ⟨c, s, rfl⟩ := List.exists_cons_of_ne_nil nonempty
  rw [hidingText_chars] at found
  rw [(List.cons_prefix_cons.mp found).1]
  exact suffix.subset List.mem_cons_self

theorem deleted_value {next : Char} (inert : ∀ c ∈ cs, Reader.isInert c = true)
    (ends : next ≠ 'd') :
    deleted (cs ++ '"' :: next :: rest) = cs ++ deleted ('"' :: next :: rest) := by
  refine replaceAfter_over fun s _ suffix found => ends ?_
  have quoted : hidingText.toList = " style=".toList ++ '"' :: "display: none\"".toList := by
    decide
  have unquoted : '"' ∉ s := fun mem => (isInert_ne (inert _ (suffix.subset mem))).2.2 rfl
  rw [quoted] at found
  obtain ⟨-, value⟩ := prefix_of_mark (by decide) unquoted found
  exact (List.cons_prefix_cons.mp value).1.symm

/-- An attribute is deleted if it is the one that hides, and left as it is otherwise. -/
theorem deleted_attr {a : Attr} (clean : a.Clean) {next : Char} (ends : next ≠ 'd') :
    deleted (a.write.toList ++ next :: rest) =
      (if a.hides then [] else a.write.toList) ++ deleted (next :: rest) := by
  have parts : a.write.toList =
      ' ' :: (a.name.write.toList ++ '=' :: '"' :: ((writePieces a.value).toList ++ ['"'])) := by
    simp [Attr.write]
  have notName : ∀ c, Reader.isNameChar c = false → c ∉ a.name.write.toList := by
    intro c other mem
    exact Bool.false_ne_true (other.symm.trans (clean.name c mem))
  have valueInert := inert_writePieces clean.value
  have noQuote : '"' ∉ (writePieces a.value).toList :=
    fun mem => (isInert_ne (valueInert _ mem)).2.2 rfl
  by_cases hides : a.hides = true
  · simp only [Attr.hides, Bool.and_eq_true, beq_iff_eq] at hides
    have found : a.write.toList = hidingText.toList := by
      rw [parts, hides.1, hides.2, hidingText_chars]
    rw [if_pos (by simp [Attr.hides, hides]), found]
    exact OpenText.replaceAfter_found (by decide) [] _
  · have kept : ¬ hidingText.toList <+: ' ' :: (a.name.write.toList ++ '=' :: '"' ::
        ((writePieces a.value).toList ++ '"' :: next :: rest)) := by
      rw [hidingText_chars]
      intro found
      have named := prefix_of_mark (by decide) (notName '=' (by decide))
        (List.cons_prefix_cons.mp found).2
      have valued := prefix_of_mark (by decide) noQuote (List.cons_prefix_cons.mp named.2).2
      refine hides ?_
      simp [Attr.hides, String.toList_inj.mp named.1.symm, String.toList_inj.mp valued.1.symm]
    have tight : ' ' ∉ a.name.write.toList ++ ['=', '"'] := by
      rw [List.mem_append, not_or]
      exact ⟨notName ' ' (by decide), by decide⟩
    have quote : deleted ('"' :: next :: rest) = '"' :: deleted (next :: rest) :=
      deleted_tight (show ' ' ∉ ['"'] by decide)
    have inside : deleted (_ ++ ((writePieces a.value).toList ++ '"' :: next :: rest)) = _ :=
      deleted_tight tight
    rw [deleted_value valueInert ends, quote] at inside
    rw [if_neg hides, parts]
    simp only [List.append_assoc, List.cons_append, List.nil_append] at inside ⊢
    exact (replaceAfter_pass kept).trans (congrArg (' ' :: ·) inside)

theorem deleted_attrs {as : List Attr} (clean : ∀ a ∈ as, a.Clean) :
    deleted ((writeAttrs as).toList ++ '>' :: rest) =
      (writeAttrs (as.filter (!·.hides))).toList ++ deleted ('>' :: rest) := by
  induction as with
  | nil => rfl
  | cons a as ih =>
    have others := ih fun b mem => clean b (List.mem_cons_of_mem a mem)
    -- after an attribute comes another one, or the end of the tag
    obtain ⟨next, after, follows, ends⟩ : ∃ next after,
        (writeAttrs as).toList ++ '>' :: rest = next :: after ∧ next ≠ 'd' := by
      cases as with
      | nil => exact ⟨'>', rest, rfl, by decide⟩
      | cons b bs =>
        refine ⟨' ', (b.name.write ++ "=\"" ++ writePieces b.value ++ "\"").toList ++
          ((writeAttrs bs).toList ++ '>' :: rest), ?_, by decide⟩
        simp [writeAttrs, Attr.write]
    rw [writeAttrs, String.toList_append, List.append_assoc, follows,
      deleted_attr (clean a List.mem_cons_self) ends, ← follows, others, List.filter_cons]
    cases a.hides <;> simp [writeAttrs]

/-! ## Deleting the text -/

theorem elementTags_tight : ∀ tag ∈ elementTags, ' ' ∉ tag.toList := by decide

theorem outsideTag_tag (cs : List Char) : OutsideTag ('<' :: cs) := by
  simp [OutsideTag]

/-- What is written after text outside tags is text outside tags, or begins a tag. -/
theorem outsideTag_writeAll {hs : List Html} (clean : CleanAll hs) (outside : OutsideTag rest) :
    OutsideTag ((writeAll hs).toList ++ rest) := by
  induction hs with
  | nil => exact outside
  | cons h hs ih =>
    cases h with
    | piece p =>
      have text : (writeAll (.piece p :: hs)).toList ++ rest =
          p.write.toList ++ ((writeAll hs).toList ++ rest) := by
        simp [writeAll, write]
      rw [text]
      exact (ih clean.2).inert_append clean.1
    | element tag attrs body => simpa [writeAll, write] using outsideTag_tag _
    | void tag attrs => simpa [writeAll, write] using outsideTag_tag _

/-- A tag is left as it is but for the attributes that hide. -/
theorem deleted_tag {tag : String} {attrs : List Attr} (tight : ' ' ∉ tag.toList)
    (clean : ∀ a ∈ attrs, a.Clean) (rest : List Char) :
    deleted (("<" ++ tag ++ writeAttrs attrs ++ ">").toList ++ rest) =
      ("<" ++ tag ++ writeAttrs (attrs.filter (!·.hides)) ++ ">").toList ++ deleted rest := by
  have opened : ' ' ∉ '<' :: tag.toList := by simpa using tight
  have closed : deleted ('>' :: rest) = '>' :: deleted rest :=
    deleted_tight (show ' ' ∉ ['>'] by decide)
  have name : deleted (_ ++ ((writeAttrs attrs).toList ++ '>' :: rest)) = _ := deleted_tight opened
  rw [deleted_attrs clean, closed] at name
  simpa using name

mutual

theorem deleted_write : ∀ (h : Html), h.Clean → ∀ {rest : List Char}, OutsideTag rest →
    deleted (h.write.toList ++ rest) = h.reveal.write.toList ++ deleted rest
  | .piece p, clean, rest, outside => deleted_text clean outside
  | .element tag attrs body, ⟨known, attrsClean, bodyClean⟩, rest, outside => by
    have tight := elementTags_tight tag known
    have ending : ' ' ∉ ("</" ++ tag ++ ">").toList := by simpa using tight
    have beforeTag : OutsideTag (("</" ++ tag ++ ">").toList ++ rest) := by
      simpa using outsideTag_tag _
    have inner := deleted_writeAll body bodyClean beforeTag
    rw [deleted_tight ending] at inner
    have whole := deleted_tag tight attrsClean
      ((writeAll body).toList ++ (("</" ++ tag ++ ">").toList ++ rest))
    rw [inner] at whole
    simpa [write, reveal] using whole
  | .void tag attrs, ⟨isInput, attrsClean⟩, rest, outside => by
    subst isInput
    have tight : ' ' ∉ "input".toList := by decide
    simpa [write, reveal] using deleted_tag tight attrsClean rest

theorem deleted_writeAll : ∀ (hs : List Html), CleanAll hs → ∀ {rest : List Char},
    OutsideTag rest →
    deleted ((writeAll hs).toList ++ rest) = (writeAll (revealAll hs)).toList ++ deleted rest
  | [], _, rest, _ => rfl
  | h :: hs, ⟨clean, others⟩, rest, outside => by
    have follows : OutsideTag ((writeAll hs).toList ++ rest) := outsideTag_writeAll others outside
    have first := deleted_write h clean follows
    rw [deleted_writeAll hs others outside] at first
    simpa [writeAll] using first

end

end Found

/-- **Deleting the text reveals the tree.** In the text of a clean tree the attribute that hides is
found where it was written and nowhere else. -/
theorem replaceAll_hidingText {hs : List Html} (clean : CleanAll hs) :
    replaceAll hidingText "" (writeAll hs) = writeAll (revealAll hs) := by
  have atEnd : OutsideTag [] := by simp [OutsideTag]
  have whole := deleted_writeAll hs clean atEnd
  rw [List.append_nil, deleted, deleted, replaceAfter, List.append_nil] at whole
  rw [replaceAll, String.toList_empty, whole, String.ofList_toList]

/-! ## What is hidden -/

theorem Attr.hides_other {a : Attr} (other : a.name.content ≠ "style") : a.hides = false := by
  obtain ⟨name, value⟩ := a
  have written : name.write ≠ "style" := by
    intro same
    cases name with
    | markup s => exact other same
    | text s =>
      have read := Reader.unescape_escape s
      rw [show escape s = "style" from same] at read
      exact other (read.symm.trans (by decide))
  simp [Attr.hides, written]

@[simp] theorem Attr.hides_text {name : String} (other : name ≠ "style") (value : List Piece) :
    Attr.hides ⟨.text name, value⟩ = false := hides_other other

theorem Attr.hides_style : Attr.hides ⟨.text "style", [.text "display: none"]⟩ = true := by
  decide

theorem hides_of_attr? {attrs : List Attr} (unset : attr? "style" attrs = none) :
    attrs.any Attr.hides = false := by
  rw [attr?, Option.map_eq_none_iff, List.find?_eq_none] at unset
  rw [List.any_eq_false]
  intro a mem
  rw [Attr.hides_other (by simpa using unset a mem)]
  exact Bool.false_ne_true

/-- An item or a group of the markup, or whatever else is hidden. -/
structure Exposure where
  tag : String
  id : Option String
  hidden : Bool
  deriving DecidableEq, Repr

namespace Html

/-- The element is hidden. -/
def isHidden (h : Html) : Bool := h.attrs.any Attr.hides

/-- The element as an item or a group, or because it is hidden. -/
def exposure? (h : Html) : Option Exposure :=
  match h.tag? with
  | none => none
  | some tag =>
    if tag == "li" || tag == "fieldset" || h.isHidden then some ⟨tag, h.id?, h.isHidden⟩
    else none

/-- The items and groups of trees in a row with what else is hidden, in document order. -/
def exposures (hs : List Html) : List Exposure := (elementsAll hs).filterMap exposure?

@[simp] theorem exposures_nil : exposures [] = [] := rfl

@[simp] theorem exposures_append (xs ys : List Html) :
    exposures (xs ++ ys) = exposures xs ++ exposures ys := by
  rw [exposures, elementsAll_append, List.filterMap_append]
  rfl

@[simp] theorem exposures_piece (p : Piece) (rest : List Html) :
    exposures (.piece p :: rest) = exposures rest := rfl

@[simp] theorem exposures_lineFeed (rest : List Html) :
    exposures (lineFeed :: rest) = exposures rest := rfl

theorem exposures_joinLines (blocks : List (List Html)) :
    exposures (joinLines blocks) = blocks.flatMap exposures := by
  rw [exposures, elementsAll_joinLines, List.filterMap_flatMap]
  rfl

theorem exposures_flatMap {α : Type} (f : α → List Html) (as : List α) :
    exposures (as.flatMap f) = as.flatMap fun a => exposures (f a) := by
  induction as with
  | nil => rfl
  | cons a rest ih => rw [List.flatMap_cons, List.flatMap_cons, exposures_append, ih]

theorem exposures_element (tag : String) (attrs : List Attr) (body rest : List Html) :
    exposures (.element tag attrs body :: rest) =
      (exposure? (.element tag attrs body)).toList ++ (exposures body ++ exposures rest) := by
  rw [exposures, elementsAll_cons, elements_element, List.cons_append, List.filterMap_cons,
    List.filterMap_append]
  cases exposure? (.element tag attrs body) <;> rfl

theorem exposures_void (tag : String) (attrs : List Attr) (rest : List Html) :
    exposures (.void tag attrs :: rest) =
      (exposure? (.void tag attrs)).toList ++ exposures rest := by
  rw [exposures, elementsAll_cons, elements_void, List.cons_append, List.nil_append,
    List.filterMap_cons]
  cases exposure? (.void tag attrs) <;> rfl

/-- Elements of other tags are left out unless they are hidden. -/
@[simp] theorem exposures_other {tag : String} {attrs : List Attr} {body rest : List Html}
    (noItem : tag ≠ "li") (noGroup : tag ≠ "fieldset") (seen : attrs.any Attr.hides = false) :
    exposures (.element tag attrs body :: rest) = exposures body ++ exposures rest := by
  have left : exposure? (.element tag attrs body) = none := by
    simp [exposure?, tag?, isHidden, Html.attrs, noItem, noGroup, seen]
  rw [exposures_element, left]
  rfl

@[simp] theorem exposures_bare {tag : String} {body rest : List Html} (noItem : tag ≠ "li")
    (noGroup : tag ≠ "fieldset") :
    exposures (.element tag [] body :: rest) = exposures body ++ exposures rest :=
  exposures_other noItem noGroup rfl

@[simp] theorem exposures_input {attrs : List Attr} {rest : List Html}
    (seen : attrs.any Attr.hides = false) :
    exposures (.void "input" attrs :: rest) = exposures rest := by
  have left : exposure? (.void "input" attrs) = none := by
    simp [exposure?, tag?, isHidden, Html.attrs, seen]
  rw [exposures_void, left]
  rfl

/-- The attributes of an element that is left out, and of one that is seen, stay. -/
theorem reveal_attrs {attrs : List Attr} (seen : attrs.any Attr.hides = false) :
    attrs.filter (!·.hides) = attrs := by
  rw [List.filter_eq_self]
  intro a mem
  simpa using List.any_eq_false.mp seen a mem

theorem seen_of_exposure? {h : Html} (left : exposure? h = none) :
    h.attrs.any Attr.hides = false := by
  unfold exposure? at left
  cases h with
  | piece p => rfl
  | element tag attrs body =>
    by_contra hidden
    simp [tag?, isHidden, Bool.not_eq_false _ ▸ hidden] at left
  | void tag attrs =>
    by_contra hidden
    simp [tag?, isHidden, Bool.not_eq_false _ ▸ hidden] at left

mutual

theorem reveal_of_exposures : ∀ h : Html, exposures [h] = [] → h.reveal = h
  | .piece p, _ => rfl
  | .element tag attrs body, clear => by
    rw [exposures_element, List.append_eq_nil_iff, List.append_eq_nil_iff] at clear
    have seen : attrs.any Attr.hides = false :=
      seen_of_exposure? (Option.toList_eq_nil_iff.mp clear.1)
    rw [reveal, reveal_attrs seen, revealAll_of_exposures body clear.2.1]
  | .void tag attrs, clear => by
    rw [exposures_void, List.append_eq_nil_iff] at clear
    have seen : attrs.any Attr.hides = false :=
      seen_of_exposure? (Option.toList_eq_nil_iff.mp clear.1)
    rw [reveal, reveal_attrs seen]

theorem revealAll_of_exposures : ∀ hs : List Html, exposures hs = [] → revealAll hs = hs
  | [], _ => rfl
  | h :: rest, clear => by
    rw [← List.singleton_append, exposures_append, List.append_eq_nil_iff] at clear
    rw [revealAll_cons, reveal_of_exposures h clear.1, revealAll_of_exposures rest clear.2]

end

end Html

end Formwright
