import Formwright.Markup.Theme
import Formwright.Proofs.Outcome
import Formwright.Proofs.Value.Named

/-!
# Controls of a markup tree

What a browser submits are the elements with a name. This file finds them in a tree, in document
order, and says which attributes an element gets from a table.

- `attr?`: an attribute of an element as a browser has it.
- `Html.controls`: the elements with a name.
- `Html.blank`: a tree without the elements of one name.
- `attr?_spread`: attributes given as a table.
-/

namespace Formwright

open Outcome Template

/-- The text of a piece as it is shown. -/
def Piece.content : Piece → String
  | .text s => s
  | .markup s => s

/-- The text of pieces one after the other. -/
def contentOf (ps : List Piece) : String := String.join (ps.map Piece.content)

/-- The value of the first attribute of a name. -/
def attr? (name : String) (attrs : List Attr) : Option String :=
  (attrs.find? fun a => a.name.content == name).map fun a => contentOf a.value

@[simp] theorem Value.piece_text (s : String) : (Value.text s).piece = .text s := rfl

@[simp] theorem Piece.content_text (s : String) : (Piece.text s).content = s := rfl

@[simp] theorem contentOf_singleton (p : Piece) : contentOf [p] = p.content := by
  simp [contentOf, String.join]

@[simp] theorem attr?_nil (name : String) : attr? name [] = none := rfl

@[simp] theorem attr?_cons (name key : String) (value : List Piece) (rest : List Attr) :
    attr? name (⟨.text key, value⟩ :: rest) =
      if key = name then some (contentOf value) else attr? name rest := by
  unfold attr?
  rw [List.find?_cons, Piece.content_text]
  by_cases h : key = name
  · simp [h]
  · simp [h, beq_eq_false_iff_ne.mpr h]

namespace Html

/-- The attributes of an element. -/
def attrs : Html → List Attr
  | .piece _ => []
  | .element _ attrs _ => attrs
  | .void _ attrs => attrs

/-- The name of an element, if it has one. -/
def name? (h : Html) : Option String := attr? "name" h.attrs

/-- The element is an `input`. -/
def isInput : Html → Bool
  | .void tag _ => tag == "input"
  | _ => false

mutual

/-- The elements of a tree that have a name, in document order. -/
def controls : Html → List Html
  | .piece _ => []
  | .element tag attrs body =>
    if (attr? "name" attrs).isSome then .element tag attrs body :: controlsAll body
    else controlsAll body
  | .void tag attrs => if (attr? "name" attrs).isSome then [.void tag attrs] else []

/-- The elements of trees in a row that have a name. -/
def controlsAll : List Html → List Html
  | [] => []
  | h :: rest => h.controls ++ controlsAll rest

end

@[simp] theorem controls_piece (p : Piece) : (Html.piece p).controls = [] := rfl

@[simp] theorem controlsAll_nil : controlsAll [] = [] := rfl

@[simp] theorem controlsAll_cons (h : Html) (rest : List Html) :
    controlsAll (h :: rest) = h.controls ++ controlsAll rest := rfl

@[simp] theorem controlsAll_append (xs ys : List Html) :
    controlsAll (xs ++ ys) = controlsAll xs ++ controlsAll ys := by
  induction xs with
  | nil => rfl
  | cons x xs ih => simp [ih]

theorem controlsAll_flatMap {α : Type} (f : α → List Html) (as : List α) :
    controlsAll (as.flatMap f) = as.flatMap fun a => controlsAll (f a) := by
  induction as with
  | nil => rfl
  | cons a rest ih => rw [List.flatMap_cons, List.flatMap_cons, controlsAll_append, ih]

theorem controls_element {tag : String} {attrs : List Attr} {body : List Html}
    (unnamed : attr? "name" attrs = none) :
    (Html.element tag attrs body).controls = controlsAll body := by
  simp [controls, unnamed]

theorem controls_named {tag name : String} {attrs : List Attr} {body : List Html}
    (named : attr? "name" attrs = some name) :
    (Html.element tag attrs body).controls = .element tag attrs body :: controlsAll body := by
  simp [controls, named]

theorem controls_void {tag name : String} {attrs : List Attr}
    (named : attr? "name" attrs = some name) :
    (Html.void tag attrs).controls = [.void tag attrs] := by
  simp [controls, named]

theorem controlsAll_joinLines (blocks : List (List Html)) :
    controlsAll (joinLines blocks) = blocks.flatMap controlsAll := by
  induction blocks with
  | nil => rfl
  | cons block rest ih =>
    cases rest with
    | nil => simp [joinLines]
    | cons next rest =>
      rw [joinLines, controlsAll_append, controlsAll_cons, ih]
      · simp [lineFeed]
      · simp

/-! ## Leaving a name blank -/

mutual

/-- A tree with the elements of a name left blank. -/
def blank (name : String) : Html → Html
  | .piece p => .piece p
  | .element tag attrs body =>
    if attr? "name" attrs = some name then .piece (.text "")
    else .element tag attrs (blankAll name body)
  | .void tag attrs =>
    if attr? "name" attrs = some name then .piece (.text "") else .void tag attrs

/-- Trees in a row with the elements of a name left blank. -/
def blankAll (name : String) : List Html → List Html
  | [] => []
  | h :: rest => h.blank name :: blankAll name rest

end

@[simp] theorem blank_piece (name : String) (p : Piece) :
    (Html.piece p).blank name = .piece p := rfl

@[simp] theorem blankAll_nil (name : String) : blankAll name [] = [] := rfl

@[simp] theorem blankAll_cons (name : String) (h : Html) (rest : List Html) :
    blankAll name (h :: rest) = h.blank name :: blankAll name rest := rfl

@[simp] theorem blankAll_append (name : String) (xs ys : List Html) :
    blankAll name (xs ++ ys) = blankAll name xs ++ blankAll name ys := by
  induction xs with
  | nil => rfl
  | cons x xs ih => simp [ih]

theorem blankAll_joinLines (name : String) (blocks : List (List Html)) :
    blankAll name (joinLines blocks) = joinLines (blocks.map (blankAll name)) := by
  induction blocks with
  | nil => rfl
  | cons block rest ih =>
    cases rest with
    | nil => rfl
    | cons next rest =>
      rw [joinLines, blankAll_append, blankAll_cons, ih]
      · rfl
      · simp

end Html

/-! ## Attributes given as a table -/

theorem content_piece_of_string? {key : Value} {name : String} (h : key.string? = some name) :
    key.piece.content = name := by
  cases key with
  | text s => exact Option.some.inj h
  | markup s => exact Option.some.inj h
  | _ => cases h

theorem attr?_spread {entries : List (Value × Value)} {attrs : List Attr}
    (spread : spreadAttrs entries = .ok attrs) {name : String} {v : Value}
    (found : Value.named? entries name = some v) (given : v.isNone = false) :
    attr? name attrs = some v.piece.content := by
  induction entries generalizing attrs with
  | nil => cases found
  | cons e rest ih =>
    obtain ⟨key, w⟩ := e
    rw [Value.named?_cons] at found
    unfold spreadAttrs at spread
    split at spread
    · rename_i absent
      split at found
      · cases found
        rw [given] at absent
        cases absent
      · exact ih spread found
    · split at spread
      · cases spread
      · rename_i keyName isText
        split at spread
        · cases spread
        · obtain ⟨-, -, spread⟩ := bind_eq_ok.mp spread
          obtain ⟨others, spreadRest, spread⟩ := bind_eq_ok.mp spread
          cases spread
          unfold attr?
          rw [List.find?_cons, content_piece_of_string? isText]
          simp only [Value.isText, isText] at found
          by_cases h : keyName = name
          · simp only [h, beq_self_eq_true, if_true, Option.some.injEq] at found
            simp [h, found]
          · simp only [Option.some_beq_some, beq_eq_false_iff_ne.mpr h] at found
            rw [beq_eq_false_iff_ne.mpr h]
            exact ih spreadRest found

end Formwright
