import Formwright.Proofs.Render.ReadBack

/-!
# Choices on offer

Whatever a field is chosen with, its markup offers values, and some of them are marked as chosen:
the options of a select, the check boxes and the radio buttons of a list.

- `Offer`, `Html.offeredAll`: the values that a markup offers.
- `Drawing.select_offered`: a select offers its prompt and its choices.
- `Drawing.many_offered`: a choice of any number of members offers them, in whatever style.
-/

namespace Formwright

open Html Outcome Template

/-- A value that can be chosen, and whether it is marked as chosen. -/
structure Offer where
  value : String
  marked : Bool
  deriving DecidableEq, Repr

/-- What a choice of a select offers. -/
def SelectOption.offer (c : SelectOption) : Offer := ⟨c.value, c.selected⟩

namespace Html

/-- What an element offers: an option is marked when it is selected, a box or button when it is
checked. -/
def offer? : Html → Option Offer
  | .piece _ => none
  | .element tag attrs _ =>
    if tag = "option" then
      some ⟨(attr? "value" attrs).getD "", (attr? "selected" attrs).isSome⟩
    else none
  | .void _ attrs =>
    if attr? "type" attrs = some "checkbox" ∨ attr? "type" attrs = some "radio" then
      some ⟨(attr? "value" attrs).getD "", (attr? "checked" attrs).isSome⟩
    else none

/-- All that trees in a row offer, in document order. -/
def offeredAll (hs : List Html) : List Offer := (elementsAll hs).filterMap offer?

@[simp] theorem offeredAll_nil : offeredAll [] = [] := rfl

@[simp] theorem offeredAll_append (xs ys : List Html) :
    offeredAll (xs ++ ys) = offeredAll xs ++ offeredAll ys := by
  rw [offeredAll, elementsAll_append, List.filterMap_append]
  rfl

@[simp] theorem offeredAll_piece (p : Piece) (rest : List Html) :
    offeredAll (.piece p :: rest) = offeredAll rest := rfl

theorem offeredAll_element {tag : String} (other : tag ≠ "option") (attrs : List Attr)
    (body rest : List Html) :
    offeredAll (.element tag attrs body :: rest) = offeredAll body ++ offeredAll rest := by
  have own : (Html.element tag attrs body).offer? = none := if_neg other
  rw [offeredAll, elementsAll_cons, elements_element, List.cons_append,
    List.filterMap_cons_none own, List.filterMap_append]
  rfl

@[simp] theorem offeredAll_void (tag : String) (attrs : List Attr) (rest : List Html) :
    offeredAll (.void tag attrs :: rest) =
      (Html.void tag attrs).offer?.toList ++ offeredAll rest := by
  rw [offeredAll, elementsAll_cons, elements_void, List.cons_append, List.nil_append,
    List.filterMap_cons]
  cases (Html.void tag attrs).offer? <;> rfl

theorem offeredAll_flatMap {α : Type} (f : α → List Html) (as : List α) :
    offeredAll (as.flatMap f) = as.flatMap fun a => offeredAll (f a) := by
  induction as with
  | nil => rfl
  | cons a rest ih => rw [List.flatMap_cons, List.flatMap_cons, offeredAll_append, ih]

end Html

namespace Drawing

variable {d : Drawing} {desc : Descriptor} {o : FieldOptions} {hs : List Html}

/-! ## What a select offers -/

theorem option_offered (c : SelectOption) : offeredAll [optionMarkup c, lineFeed] = [c.offer] := by
  obtain ⟨value, label, selected⟩ := c
  cases selected <;> rfl

theorem options_offered (choices : List SelectOption) :
    offeredAll (choices.flatMap fun c => [optionMarkup c, lineFeed]) =
      choices.map SelectOption.offer := by
  rw [offeredAll_flatMap, List.map_eq_flatMap]
  simp only [option_offered]

theorem errors_offered (standard : d.theme = .standard) {errors : Option (List Value)}
    (said : d.errors errors = .ok hs) : offeredAll hs = [] := by
  rw [errors_drawn standard] at said
  obtain ⟨sentences, -, rfl⟩ := exceptMap_eq_ok.mp said
  rw [offeredAll_flatMap, List.flatMap_eq_nil_iff]
  exact fun sentence _ => rfl

theorem withErrors_offered (standard : d.theme = .standard) {body : Except Fault (List Html)}
    (drawn : d.withErrors desc body = .ok hs) :
    ∃ control, body = .ok control ∧ offeredAll hs = offeredAll control := by
  obtain ⟨control, isControl, drawn⟩ := bind_eq_ok.mp drawn
  obtain ⟨errors, said, drawn⟩ := bind_eq_ok.mp drawn
  cases drawn
  refine ⟨control, isControl, ?_⟩
  rw [offeredAll_append, errors_offered standard said, List.append_nil]

theorem selectMarkup_offered (attrs : List Attr) (prompt : Option String)
    (choices : List SelectOption) :
    offeredAll [selectMarkup attrs prompt choices] =
      (promptChoices prompt ++ choices).map SelectOption.offer := by
  rw [selectMarkup, offeredAll_element (by decide), promptMarkup_eq, offeredAll_append,
    options_offered, offeredAll_nil, List.append_nil, List.map_append]
  exact congrArg (· ++ _) (options_offered (promptChoices prompt))

theorem select_offers (standard : d.theme = .standard) {choices : List SelectOption}
    (drawn : d.select desc choices o = .ok hs) :
    offeredAll hs = (promptChoices o.prompt ++ choices).map SelectOption.offer := by
  obtain ⟨control, isControl, same⟩ := withErrors_offered standard drawn
  rw [selectTemplate_fill standard] at isControl
  obtain ⟨attrs, -, rfl⟩ := exceptMap_eq_ok.mp isControl
  exact same.trans (selectMarkup_offered attrs o.prompt choices)

/-- A select is drawn, and it offers its prompt and its choices. -/
theorem select_offered (desc : Descriptor) (o : FieldOptions) (standard : d.theme = .standard)
    (writable : o.isWritable = true) (shows : d.ShowsErrors desc.errors)
    (choices : List SelectOption) :
    ∃ hs, d.select desc choices o = .ok hs ∧
      offeredAll hs = (promptChoices o.prompt ++ choices).map SelectOption.offer := by
  obtain ⟨hs, drawn⟩ : ∃ hs, d.select desc choices o = .ok hs :=
    select_total standard writable shows choices
  exact ⟨hs, drawn, select_offers standard drawn⟩

/-! ## What a choice of any number of members offers -/

section Members

variable {style : CollectionStyle} {selected : List String}

theorem boxes_offered (group label : String) {type : String}
    (known : type = "checkbox" ∨ type = "radio") (texts : List (String × String)) :
    offeredAll (boxesMarkup desc style selected group label type texts) =
      texts.map fun t => (memberChoice selected t).offer := by
  have own : ∀ (id name : String) (c : SelectOption),
      offeredAll [boxMarkup label type id name c, lineFeed] = [c.offer] := by
    rintro id name ⟨value, text, marked⟩
    rcases known with rfl | rfl <;> cases marked <;> rfl
  rw [boxesMarkup, offeredAll_element (by decide), List.map_eq_flatMap]
  simp only [lineFeed, offeredAll_piece, offeredAll_nil, List.append_nil]
  rw [offeredAll_flatMap]
  exact congrArg (texts.flatMap ·) (funext fun t => own _ _ _)

theorem membersMarkup_offered (texts : List (String × String)) :
    offeredAll (membersMarkup desc style selected texts) =
      texts.map fun t => (memberChoice selected t).offer := by
  cases style with
  | checkBoxes => exact boxes_offered _ _ (Or.inl rfl) texts
  | radio => exact boxes_offered _ _ (Or.inr rfl) texts
  | select =>
    have options := options_offered (texts.map (memberChoice selected))
    rw [List.flatMap_map, List.map_map] at options
    rw [membersMarkup, listMarkup, offeredAll_element (by decide)]
    simp only [lineFeed, offeredAll_piece, offeredAll_nil, List.append_nil]
    exact options

/-- Members are offered one by one, in whatever style, and marked if they are selected. -/
theorem many_offered (standard : d.theme = .standard) {items : List Value}
    {identity : Value → Value} {chosen : List Value}
    (drawn : d.many desc items o identity chosen = .ok hs) :
    ∃ texts, items.mapM (memberText (isLiteralCollection items) o identity) = .ok texts ∧
      offeredAll hs = texts.map fun t => (memberChoice (chosen.map Value.toText) t).offer := by
  rw [many_eq standard] at drawn
  obtain ⟨texts, read, drawn⟩ := bind_eq_ok.mp drawn
  obtain ⟨control, isControl, same⟩ := withErrors_offered standard drawn
  cases isControl
  refine ⟨texts, read, same.trans ?_⟩
  exact membersMarkup_offered texts

end Members

end Drawing

end Formwright
