import Formwright.Proofs.Outcome
import Formwright.Render.Field

/-!
# Inputs taken apart

An input is an item around one of three controls: a choice of any number of members, a select of one
item, or the control of a scalar type. `Drawn` lists them with what they are drawn from, and
`input_inv` says that there are no others. Each control shows the value under one key, `inputKey`.
-/

namespace Formwright.Render.Renderer

open Outcome

variable {r : Renderer} {c : Context} {f : Frame} {field : String} {o : FieldOptions}

/-- The association of a field, if it is one. -/
def assoc? (r : Renderer) (model field : String) : Option Association :=
  (r.schema.association? model field).toOption.join

theorem assoc?_of_ok {model : String} {a : Option Association}
    (h : r.schema.association? model field = .ok a) : r.assoc? model field = a := by
  rw [assoc?, h]
  cases a <;> rfl

/-- The key whose value an input shows: that of its association or its own. -/
def inputKey (r : Renderer) (model field : String) (o : FieldOptions) : String :=
  if o.collection.isSome then
    if isMany (r.assoc? model field) then idsKey field
    else Schema.keyOf (r.assoc? model field) field
  else field

/-- Any number of members of a collection can be chosen. -/
def picksMany (r : Renderer) (model field : String) (o : FieldOptions) : Bool :=
  o.collection.isSome && isMany (r.assoc? model field)

/-- The kind of the control of a field without a collection, if the field is known. -/
def kind? (r : Renderer) (model field : String) (o : FieldOptions) : Option ControlKind :=
  if o.collection.isSome then none
  else (r.schema.fieldType model field).toOption.map fun type =>
    .resolve (.ofDeclared type) o false

/-- The control of a field, with what it is drawn from. -/
inductive Drawn (r : Renderer) (c : Context) (f : Frame) (field : String) (o : FieldOptions) :
    Shown → Prop where
  | many {desc : Descriptor} {items selected : List Value} {html : List Html}
      (key : r.inputKey f.model field o = idsKey field)
      (described : r.describe c f field (idsKey field) o = .ok desc)
      (drawn : r.drawing.many { desc with name := desc.name ++ "[]" } items o r.schema.identity
        selected = .ok html)
      (many : r.picksMany f.model field o = true) (kind : r.kind? f.model field o = none) :
      Drawn r c f field o ⟨{ desc with name := desc.name ++ "[]" }, html⟩
  | single {desc : Descriptor} {choices : List SelectOption} {html : List Html}
      (described : r.describe c f field (r.inputKey f.model field o) o = .ok desc)
      (drawn : r.drawing.select desc choices o = .ok html)
      (one : r.picksMany f.model field o = false) (kind : r.kind? f.model field o = none) :
      Drawn r c f field o ⟨desc, html⟩
  | scalar {desc : Descriptor} {kind : ControlKind} {html : List Html}
      (key : r.inputKey f.model field o = field)
      (described : r.describe c f field field o = .ok desc)
      (drawn : r.drawing.scalar kind desc o c.today = .ok html)
      (one : r.picksMany f.model field o = false) (resolved : r.kind? f.model field o = some kind) :
      Drawn r c f field o ⟨desc, html⟩

theorem manyControl_inv {items : List Value} {shown : Shown}
    (key : r.inputKey f.model field o = idsKey field)
    (many : r.picksMany f.model field o = true) (kind : r.kind? f.model field o = none)
    (h : r.manyControl c f field o items = .ok shown) : Drawn r c f field o shown := by
  obtain ⟨desc, described, h⟩ := bind_eq_ok.mp h
  obtain ⟨selected, -, h⟩ := bind_eq_ok.mp h
  obtain ⟨html, drawn, h⟩ := bind_eq_ok.mp h
  cases h
  exact .many key described drawn many kind

theorem singleControl_inv {items : List Value} {shown : Shown}
    (one : r.picksMany f.model field o = false) (kind : r.kind? f.model field o = none)
    (h : r.singleControl c f field o items (r.inputKey f.model field o) = .ok shown) :
    Drawn r c f field o shown := by
  obtain ⟨desc, described, h⟩ := bind_eq_ok.mp h
  split at h
  · obtain ⟨html, drawn, h⟩ := bind_eq_ok.mp h
    cases h
    obtain ⟨choices, -, drawn⟩ := bind_eq_ok.mp drawn
    exact .single described drawn one kind
  · obtain ⟨html, drawn, h⟩ := bind_eq_ok.mp h
    cases h
    exact .single described drawn one kind

theorem scalarControl_inv {kind : ControlKind} {shown : Shown}
    (key : r.inputKey f.model field o = field) (one : r.picksMany f.model field o = false)
    (resolved : r.kind? f.model field o = some kind)
    (h : r.scalarControl c f field o kind = .ok shown) : Drawn r c f field o shown := by
  obtain ⟨desc, described, h⟩ := bind_eq_ok.mp h
  obtain ⟨html, drawn, h⟩ := bind_eq_ok.mp h
  cases h
  exact .scalar key described drawn one resolved

theorem control_inv {type : String} {shown : Shown × String × List Invocation}
    (typed : r.schema.fieldType f.model field = .ok type)
    (h : r.control c f field o (.ofDeclared type) = .ok shown) : Drawn r c f field o shown.1 := by
  unfold control at h
  split at h
  · rename_i given
    have noKind : r.kind? f.model field o = none := by rw [kind?, if_pos given]
    obtain ⟨associated, chosen, h⟩ := bind_eq_ok.mp h
    cases h
    obtain ⟨items, -, chosen⟩ := bind_eq_ok.mp chosen
    obtain ⟨assoc, found, chosen⟩ := bind_eq_ok.mp chosen
    obtain rfl := assoc?_of_ok found
    have key : r.inputKey f.model field o = if isMany (r.assoc? f.model field) then idsKey field
        else Schema.keyOf (r.assoc? f.model field) field := by
      rw [inputKey, if_pos given]
    split at chosen
    · rename_i many
      rw [if_pos many] at key
      obtain ⟨control, drawn, chosen⟩ := bind_eq_ok.mp chosen
      cases chosen
      exact manyControl_inv key (by simp [picksMany, given, many]) noKind drawn
    · rename_i one
      rw [if_neg one] at key
      obtain ⟨control, drawn, chosen⟩ := bind_eq_ok.mp chosen
      cases chosen
      exact singleControl_inv (by simp [picksMany, one]) noKind (key ▸ drawn)
  · rename_i none
    obtain ⟨scalar, drawn, h⟩ := bind_eq_ok.mp h
    cases h
    exact scalarControl_inv (by rw [inputKey, if_neg none]) (by simp [picksMany, none])
      (by rw [kind?, if_neg none, typed]; rfl) drawn

theorem Drawn.id_eq {shown : Shown} (h : Drawn r c f field o shown) :
    shown.descriptor.id = f.scope.elementId (r.inputKey f.model field o) := by
  have described : ∀ {key : String} {desc : Descriptor},
      r.describe c f field key o = .ok desc → desc.id = f.scope.elementId key := by
    intro key desc h
    obtain ⟨errors, -, h⟩ := bind_eq_ok.mp h
    cases h
    rfl
  cases h with
  | many key h => exact (described h).trans (congrArg f.scope.elementId key.symm)
  | single h => exact described h
  | scalar key h => exact (described h).trans (congrArg f.scope.elementId key.symm)

theorem control_kind {type : ScalarType} {shown : Shown × String × List Invocation}
    (h : r.control c f field o type = .ok shown) : ∃ kind : ControlKind, shown.2.1 = kind.name := by
  unfold control at h
  split at h
  · obtain ⟨associated, -, h⟩ := bind_eq_ok.mp h
    cases h
    exact ⟨.select, rfl⟩
  · obtain ⟨scalar, -, h⟩ := bind_eq_ok.mp h
    cases h
    exact ⟨_, rfl⟩

/-- An input is a control in an item, which is named for the kind of the control. -/
theorem input_parts {out : Output} (h : r.input c f field o = .ok out) :
    ∃ (kind : ControlKind) (shown : Shown), Drawn r c f field o shown ∧
      r.item f field o kind.name shown = .ok out.html := by
  obtain ⟨type, typed, h⟩ := bind_eq_ok.mp h
  obtain ⟨⟨shown, name, calls⟩, drawn, h⟩ := bind_eq_ok.mp h
  obtain ⟨html, item, h⟩ := bind_eq_ok.mp h
  cases h
  obtain ⟨kind, rfl⟩ := control_kind drawn
  exact ⟨kind, shown, control_inv typed drawn, item⟩

theorem input_inv {out : Output} (h : r.input c f field o = .ok out) :
    ∃ kind shown, Drawn r c f field o shown ∧ r.item f field o kind shown = .ok out.html := by
  obtain ⟨kind, shown, drawn, item⟩ := input_parts h
  exact ⟨kind.name, shown, drawn, item⟩

/-- The listener of an input is bound to the id of its control. -/
theorem input_listeners {out : Output} (h : r.input c f field o = .ok out) :
    out.listeners =
      r.listenersOf c field o (f.scope.elementId (r.inputKey f.model field o)) := by
  obtain ⟨type, typed, h⟩ := bind_eq_ok.mp h
  obtain ⟨⟨shown, kind, calls⟩, drawn, h⟩ := bind_eq_ok.mp h
  obtain ⟨html, -, h⟩ := bind_eq_ok.mp h
  cases h
  exact congrArg (r.listenersOf c field o) (control_inv typed drawn).id_eq

end Formwright.Render.Renderer
