import Formwright.Proofs.Render.Offered
import Formwright.Proofs.Render.Showable

/-!
# A select shows what is stored

A single select marks the options for what is stored. The stored value and the values of the options
are turned into text by different functions. They agree on all values but one kind: a date with a
time is displayed with another letter in it than it is written with. Where one is stored, an option
for it is never marked, and an option for a text is if that text is how it is displayed.

- `MadeFrom`: the value that a bare value or a pair makes an option for.
- `Marks`: how an option for a value is offered where a value is stored.
- `CanShow`: what is asked of a select.
- `selects_mark`: the main result; `noon_unmarked`: the stored date that is not shown.
-/

namespace Formwright

open Html Outcome

/-- The item makes an option for the value: it is the value itself, or a pair of it and a label. -/
inductive MadeFrom : Value → Value → Prop where
  | bare {v : Value} (single : Rule.members? v = none) : MadeFrom v v
  | pair {item v label : Value} (two : Rule.members? item = some [v, label]) : MadeFrom item v

/-- How an option for a value is offered where a value is stored. -/
structure Marks (stored value : Value) (offer : Offer) : Prop where
  /-- The text of the option is that of its value. -/
  text : offer.value = value.toText
  /-- Nothing is marked where nothing is stored. -/
  nothing : stored = .none → offer.marked = false
  /-- What is stored is marked, and nothing of another text. -/
  marked : stored ≠ .none → (∀ day clock, stored ≠ .datetime day clock) →
    (offer.marked = true ↔ value.toText = stored.toText)
  /-- Where a date with a time is stored, what is displayed of it is marked. -/
  displayed : ∀ day clock, stored = .datetime day clock →
    (offer.marked = true ↔ value.toText = day.iso ++ "T" ++ clock.iso)
  /-- A date with a time is not marked. -/
  unmarked : ∀ day clock, stored = .datetime day clock → value = stored → offer.marked = false

/-- Dates with a time are displayed with another letter between them than they are written with. -/
theorem displayText_datetime (day : Date) (clock : Clock) :
    displayText (.datetime day clock) ≠ some (Value.datetime day clock).toText := by
  intro same
  have letters : day.iso ++ "T" ++ clock.iso = day.iso ++ " " ++ clock.iso := Option.some.inj same
  rw [String.append_assoc, String.append_assoc, String.append_right_inj,
    String.append_left_inj] at letters
  exact absurd letters (by decide)

/-- A value is displayed with its own text, unless it is nothing or a date with a time. -/
theorem displayText_eq {v : Value} (given : v ≠ .none) (other : ∀ day clock, v ≠ .datetime day clock) :
    displayText v = some v.toText := by
  cases v with
  | none => exact absurd rfl given
  | datetime day clock => exact absurd rfl (other day clock)
  | _ => rfl

namespace Drawing

variable {d : Drawing} {desc : Descriptor} {o : FieldOptions}

theorem choiceFor_marks (desc : Descriptor) (value : Value) (label : String) :
    Marks desc.value value (choiceFor desc value.toText label).offer where
  text := rfl
  nothing := by
    intro missing
    rw [SelectOption.offer, choiceFor, missing]
    rfl
  marked := by
    intro given other
    rw [SelectOption.offer, choiceFor, displayText_eq given other, Option.some_beq_some, beq_iff_eq]
    exact eq_comm
  displayed := by
    intro day clock stored
    rw [SelectOption.offer, choiceFor, stored, displayText, Option.some_beq_some, beq_iff_eq]
    exact eq_comm
  unmarked := by
    intro day clock stored same
    rw [SelectOption.offer, choiceFor, same, stored, beq_eq_false_iff_ne]
    exact displayText_datetime day clock

theorem literalOption_madeFrom {item value : Value} (made : MadeFrom item value) :
    ∃ label, literalOption item = .ok (value.toText, label) := by
  cases made with
  | bare single => exact ⟨_, by rw [literalOption, single]⟩
  | pair two => exact ⟨_, by rw [literalOption, two]⟩

theorem literalChoices_marks (desc : Descriptor) {items values : List Value}
    (made : List.Forall₂ MadeFrom items values) :
    ∃ choices, literalChoices desc items = .ok choices ∧
      List.Forall₂ (Marks desc.value) values (choices.map SelectOption.offer) := by
  induction made with
  | nil => exact ⟨[], rfl, .nil⟩
  | @cons item value items values first _ ih =>
    obtain ⟨others, read, marks⟩ := ih
    obtain ⟨label, option⟩ := literalOption_madeFrom first
    unfold literalChoices at read
    refine ⟨choiceFor desc value.toText label :: others, ?_, ?_⟩
    · rw [literalChoices, List.mapM_cons, option, read]
      rfl
    · exact .cons (choiceFor_marks desc value label) marks

theorem recordChoices_marks (desc : Descriptor) (items : List Value) (o : FieldOptions)
    (identity : Value → Value) :
    List.Forall₂ (Marks desc.value) (items.map identity)
      ((recordChoices desc items o identity).map SelectOption.offer) := by
  induction items with
  | nil => exact .nil
  | cons item rest ih => exact .cons (choiceFor_marks desc (identity item) _) ih

/-- The attributes of the control can be written, and so can its value, its options and its errors. -/
structure CanShow (d : Drawing) (desc : Descriptor) (o : FieldOptions) : Prop where
  writable : o.isWritable = true
  shows : d.ShowsErrors desc.errors
  numbers : desc.isShowable = true
  options : o.isShowable = true

/-- **A select shows what is stored.** Selects over bare values, pairs and records are drawn, and
they offer the prompt and then one option for every value, in order. An option for what is stored is
marked, and none is whose text is another; but a date with a time is not. -/
theorem selects_mark (d : Drawing) (standard : d.theme = .standard) (desc : Descriptor)
    (o : FieldOptions) (can : d.CanShow desc o) :
    (∀ items values, List.Forall₂ MadeFrom items values →
      (∀ item ∈ items, item.isShowable = true) →
      ∃ hs offers, d.literalSelect desc items o = .ok hs ∧
        offeredAll hs = (promptChoices o.prompt).map SelectOption.offer ++ offers ∧
        List.Forall₂ (Marks desc.value) values offers) ∧
    ∀ items identity, (∀ item ∈ items, item.isShowable = true ∧ (identity item).isShowable = true) →
      ∃ hs offers, d.recordSelect desc items o identity = .ok hs ∧
        offeredAll hs = (promptChoices o.prompt).map SelectOption.offer ++ offers ∧
        List.Forall₂ (Marks desc.value) (items.map identity) offers := by
  constructor
  · intro items values made _
    obtain ⟨choices, read, marks⟩ := literalChoices_marks desc made
    obtain ⟨hs, drawn, offered⟩ := select_offered desc o standard can.writable can.shows choices
    refine ⟨hs, _, ?_, offered.trans List.map_append, marks⟩
    rw [literalSelect, read, ok_bind, drawn]
  · intro items identity _
    obtain ⟨hs, drawn, offered⟩ := select_offered desc o standard can.writable can.shows
      (recordChoices desc items o identity)
    exact ⟨hs, _, drawn, offered.trans List.map_append, recordChoices_marks desc items o identity⟩

/-- A task of level two. -/
def levelDescriptor : Descriptor :=
  ⟨"task_level", "task[level]", .int 2, none, false, true, none⟩

theorem selects_mark_level :
    ∃ hs, Render.Renderer.addressBook.drawing.literalSelect levelDescriptor
        [.int 1, .tuple [.int 2, .text "Two"], .text "2", .bool true] .standard = .ok hs ∧
      offeredAll hs = [⟨"1", false⟩, ⟨"2", true⟩, ⟨"2", true⟩, ⟨"True", false⟩] := by
  have can : Render.Renderer.addressBook.drawing.CanShow levelDescriptor .standard :=
    ⟨rfl, nofun, by decide +kernel, rfl⟩
  obtain ⟨literals, -⟩ :=
    selects_mark Render.Renderer.addressBook.drawing rfl levelDescriptor .standard can
  have numbers : [Value.int 1, .tuple [.int 2, .text "Two"], .text "2", .bool true].all
      Value.isShowable = true := by decide +kernel
  obtain ⟨hs, offers, drawn, offered, marks⟩ := literals
    [.int 1, .tuple [.int 2, .text "Two"], .text "2", .bool true]
    [.int 1, .int 2, .text "2", .bool true]
    (.cons (.bare rfl) (.cons (.pair rfl) (.cons (.bare rfl) (.cons (.bare rfl) .nil))))
    (List.all_eq_true.mp numbers)
  have each : ∀ {value : Value} {offer : Offer}, Marks (.int 2) value offer →
      offer = ⟨value.toText, value.toText == "2"⟩ := by
    intro value offer mark
    obtain ⟨text, marked⟩ := offer
    have same := mark.marked nofun nofun
    rw [show text = value.toText from mark.text]
    refine congrArg (Offer.mk _) ?_
    rw [Bool.eq_iff_iff, beq_iff_eq]
    exact same
  refine ⟨hs, drawn, offered.trans ?_⟩
  rcases marks with - | ⟨one, - | ⟨two, - | ⟨three, - | ⟨four, - | -⟩⟩⟩⟩
  rw [each one, each two, each three, each four]
  decide

/-- A date with a time is not marked where it is stored, although it is the only choice. -/
theorem noon_unmarked :
    let noon : Value := .datetime ⟨2024, 1, 2⟩ ⟨12, 0, 0, 0, none⟩
    ∃ hs, Render.Renderer.addressBook.drawing.literalSelect
        ⟨"task_due", "task[due]", noon, none, false, true, none⟩ [.list [noon, .text "Noon"]]
        .standard = .ok hs ∧
      offeredAll hs = [⟨"2024-01-02 12:00:00", false⟩] := by
  intro noon
  have unmarked := select_offered (d := Render.Renderer.addressBook.drawing)
    ⟨"task_due", "task[due]", noon, none, false, true, none⟩ .standard rfl rfl nofun
    [⟨"2024-01-02 12:00:00", "Noon", false⟩]
  exact unmarked

end Drawing

end Formwright
