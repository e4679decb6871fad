import Formwright.Proofs.Render.Failing
import Formwright.Proofs.Render.Showing

/-!
# The controls of a scalar field

A scalar field without options of its own is drawn as controls with known names: a check box and the
hidden input before it have the name of the field, the selects of a date or time have it with their
units, in order, and any other field is one control. Drawing them cannot fail but for the value of a
date or time: its shape may be unknown, and an infinite number has no whole part to compare.

- `ControlKind.controlNames`, `Drawing.scalar_controlNames`: the names of all controls, in order.
- `Temporal.listsChoices`, `Temporal.Kind.ShowsInfinite`, `Temporal.Kind.selects_fails`: when the
  selects of a date or time cannot be drawn.
- `ControlKind.HasInfinite`, `Drawing.scalar_fails`: a field without options fails for an infinite
  part alone.
-/

namespace Formwright

open Html Outcome Template

/-! ## Names -/

/-- The names of the selects of a date or time, in order. -/
def Temporal.Kind.unitNames (kind : Temporal.Kind) (options : List (Value × Value))
    (name : String) : List String :=
  (kind.units options).map fun unit => name ++ "[" ++ unit.name ++ "]"

/-- The names of the controls of a kind, in order. -/
def ControlKind.controlNames (kind : ControlKind) (options : List (Value × Value))
    (name : String) : List String :=
  match kind with
  | .boolean => [name, name]
  | .date => Temporal.Kind.date.unitNames options name
  | .time => Temporal.Kind.time.unitNames options name
  | .datetime => Temporal.Kind.datetime.unitNames options name
  | .select | .collection | .textarea | .file | .text => [name]

namespace Drawing

variable {d : Drawing} {desc : Descriptor} {o : FieldOptions} {hs : List Html}

theorem temporal_controlNames (standard : d.theme = .standard) {kind : Temporal.Kind} {today : Date}
    (h : d.temporal kind desc o today = .ok hs) :
    (controlsAll hs).map (·.name?) =
      (kind.unitNames (o.options.map fun e => (.text e.1, e.2)) desc.name).map some := by
  obtain ⟨selects, controls, names⟩ := temporal_drawn standard h
  have named : ∀ s : Temporal.Select, (unitMarkup s).name? = some s.name := fun _ => rfl
  rw [controls, Temporal.Kind.unitNames, ← names, List.map_map, List.map_map]
  exact List.map_congr_left fun s _ => named s

theorem void_controlNames {name tag : String} {attrs : List Attr}
    (named : attr? "name" attrs = some name) :
    (controlsAll [.void tag attrs]).map (·.name?) = [some name] := by
  rw [controlsAll_cons, controls_void named]
  exact congrArg (fun n => [n]) named

theorem scalar_controlNames (standard : d.theme = .standard) (unset : Leaves o "name")
    {kind : ControlKind} {today : Date} (h : d.scalar kind desc o today = .ok hs) :
    (controlsAll hs).map (·.name?) =
      (kind.controlNames (o.options.map fun e => (.text e.1, e.2)) desc.name).map some := by
  obtain ⟨bare, drawn, same⟩ := withErrors_controls standard h
  rw [same]
  have input : d.input desc o = .ok bare →
      (controlsAll bare).map (·.name?) = [some desc.name] := by
    intro drawn
    obtain ⟨attrs, named, rfl, -⟩ := input_drawn standard unset drawn
    exact void_controlNames named
  cases kind with
  | boolean =>
    obtain ⟨hidden, box, controls, hiddenNamed, boxNamed⟩ := checkbox_drawn standard unset drawn
    rw [controls, List.map_cons, List.map_cons, hiddenNamed, boxNamed]
    rfl
  | textarea =>
    obtain ⟨attrs, named, rfl⟩ := textarea_drawn standard unset drawn
    have noInner :
        controlsAll ((displayText desc.value).toList.map fun s => .piece (.text s)) = [] := by
      cases displayText desc.value <;> rfl
    rw [controlsAll_cons, controls_named named, noInner]
    exact congrArg (fun n => [n]) named
  | date => exact temporal_controlNames standard drawn
  | time => exact temporal_controlNames standard drawn
  | datetime => exact temporal_controlNames standard drawn
  | file =>
    obtain ⟨attrs, named, rfl⟩ := file_drawn standard unset drawn
    exact void_controlNames named
  | select => exact input drawn
  | collection => exact input drawn
  | text => exact input drawn

end Drawing

/-! ## When drawing fails -/

namespace Temporal

/-- The unit's own choices, if it has any, are a list of some kind. -/
def listsChoices (options : List (Value × Value)) (unit : Unit) : Bool :=
  match Value.named? options unit.name with
  | some (.table own) => (Value.named? own "options").all (·.items?.isSome)
  | _ => true

theorem unitChoices_total {options : List (Value × Value)} {unit : Unit}
    (listed : listsChoices options unit = true) (today : Date) (span : Int) :
    ∃ choices, unitChoices options today span unit = .ok choices := by
  unfold listsChoices at listed
  unfold unitChoices
  split
  · rename_i own found
    simp only [found] at listed
    split
    · rename_i given own_found
      rw [own_found, Option.all_some, Option.isSome_iff_exists] at listed
      obtain ⟨items, isList⟩ := listed
      exact ⟨_, by rw [isList]⟩
    · exact ⟨_, rfl⟩
  · exact ⟨_, rfl⟩

/-- One of the units is edited that is an infinite number. -/
def ShowsInfinite (parts : List (Unit × Value)) (units : List Unit) : Prop :=
  ∃ unit ∈ units, ((parts.lookup unit).getD .none).infinite?.isSome = true

/-- A part of the value that is edited is an infinite number. -/
def Kind.ShowsInfinite (kind : Kind) (options : List (Value × Value)) (v : Value) : Prop :=
  ∃ parts, kind.parts v = .ok parts ∧ Temporal.ShowsInfinite parts (kind.units options)

/-- A part of the value is an infinite number. -/
def Kind.HasInfinite (kind : Kind) (v : Value) : Prop :=
  ∃ parts, kind.parts v = .ok parts ∧ ∃ p ∈ parts, p.2.infinite?.isSome = true

theorem Kind.hasInfinite_of_shows {kind : Kind} {options : List (Value × Value)} {v : Value}
    (shows : kind.ShowsInfinite options v) : kind.HasInfinite v := by
  obtain ⟨parts, known, unit, -, infinite⟩ := shows
  cases part : parts.lookup unit with
  | none =>
    rw [part] at infinite
    cases infinite
  | some v =>
    rw [part] at infinite
    obtain ⟨before, after, split, -⟩ := List.lookup_eq_some_iff.mp part
    exact ⟨parts, known, (unit, v), by simp [split], infinite⟩

/-- The fault of an infinite part. -/
def IsInfinite (v : Value) (e : Fault) : Prop := e = .misuse .infinite ∧ v.infinite?.isSome = true

theorem normalized_fails (v : Value) : FailsWith (IsInfinite v) (normalized v) := by
  have whole : FailsWith (IsInfinite v) (whole? v) := by
    unfold whole?
    split
    · exact .ok _
    · exact .ok _
    · exact .error ⟨rfl, rfl⟩
    · exact .ok _
    · exact .error ⟨rfl, rfl⟩
    · exact .ok _
    · exact .ok _
    · exact .ok _
    · exact .ok _
  unfold normalized
  split
  · exact .ok _
  · -- a value is normalized by its whole part, and only an infinite number has none to give
    exact whole.thenReturn

theorem selectsAfter_fails {s : Setting} (parts : List (Unit × Value)) (previous : Option Unit)
    {units : List Unit} (listed : ∀ unit ∈ units, listsChoices s.options unit = true) :
    FailsWith (fun e => e = .misuse .infinite ∧ ShowsInfinite parts units)
      (s.selectsAfter parts previous units) := by
  induction units generalizing previous with
  | nil => exact .ok _
  | cons unit rest ih =>
    have choices := unitChoices_total (listed unit List.mem_cons_self) s.today s.yearSpan
    have first : FailsWith (IsInfinite ((parts.lookup unit).getD .none))
        (s.select parts previous unit) :=
      (FailsWith.of_total choices).bind fun _ _ => (normalized_fails _).thenReturn
    have others := ih (some unit) fun u mem => listed u (List.mem_cons_of_mem _ mem)
    refine FailsWith.bind ?_ fun _ _ => FailsWith.thenReturn ?_
    · exact first.mono fun e ⟨isMisuse, infinite⟩ =>
        ⟨isMisuse, unit, List.mem_cons_self, infinite⟩
    · exact others.mono fun e ⟨isMisuse, u, mem, infinite⟩ =>
        ⟨isMisuse, u, List.mem_cons_of_mem _ mem, infinite⟩

/-- The selects of a value fail for its shape or for an infinite part. -/
theorem Kind.selects_fails {kind : Kind} {s : Setting} (v : Value)
    (listed : ∀ unit ∈ kind.units s.options, listsChoices s.options unit = true) :
    FailsWith (fun e => kind.parts v = .error e ∨
      e = .misuse .infinite ∧ kind.ShowsInfinite s.options v) (kind.selects v s) := by
  unfold Kind.selects
  cases known : kind.parts v with
  | error e => exact .error (.inl rfl)
  | ok parts =>
    refine (selectsAfter_fails parts none listed).mono fun e ⟨isMisuse, infinite⟩ => ?_
    exact .inr ⟨isMisuse, parts, known, infinite⟩

end Temporal

/-- The options of the parts of a date or time, as its selects are given them. -/
def FieldOptions.partOptions (o : FieldOptions) : List (Value × Value) :=
  o.options.map fun e => (.text e.1, e.2)

/-- The value has a shape that is known, if it is edited in parts. -/
def ControlKind.Accepts (kind : ControlKind) (v : Value) : Prop :=
  ∀ t, kind.temporal? = some t → (t.parts v).isOk = true

/-- The value is edited in parts, and one of them is an infinite number. -/
def ControlKind.HasInfinite (kind : ControlKind) (v : Value) : Prop :=
  ∃ t, kind.temporal? = some t ∧ t.HasInfinite v

namespace Drawing

variable {d : Drawing} {desc : Descriptor} {o : FieldOptions}

/-- A date or time cannot be drawn for its shape or for an infinite part. -/
theorem temporal_fails (standard : d.theme = .standard) {kind : Temporal.Kind}
    (listed : ∀ unit ∈ kind.units o.partOptions,
      Temporal.listsChoices o.partOptions unit = true) (today : Date) :
    FailsWith (fun e => kind.parts desc.value = .error e ∨
      e = .misuse .infinite ∧ kind.ShowsInfinite o.partOptions desc.value)
      (d.temporal kind desc o today) := by
  refine FailsWith.bind (Temporal.Kind.selects_fails desc.value listed) fun selects _ => ?_
  rw [temporalTemplate_fill standard]
  exact .ok _

/-- A kind that is edited in parts is drawn as a date or time. -/
theorem bare_temporal (d : Drawing) (desc : Descriptor) (o : FieldOptions) {kind : ControlKind}
    {t : Temporal.Kind} (timed : kind.temporal? = some t) (today : Date) :
    d.bare kind desc o today = d.temporal t desc o today := by
  cases kind <;> cases timed <;> rfl

theorem attrs_total (standard : d.theme = .standard) (template : String)
    (body : List Template.Node) (listed : (template, body) ∈ Template.builtIn)
    (attrs more rest : List (String × Value))
    (clean : ∀ a ∈ attrs ++ more, a.1.toList.any isNameBreak = false)
    (furnished : Furnished (rest.map fun v => (v.1, .value v.2))) :
    ∃ hs, d.fill template (("attrs", .table (overlay attrs more)) :: rest) = .ok hs := by
  have free : "attrs" ∉ givenNames := by decide
  unfold Drawing.fill
  rw [standard]
  exact FailsWith.total (Theme.standard_fails template body listed (furnished.cons free _) rfl
    (.of_total (overlay_total attrs more clean)))

/-- A control that is not edited in parts is drawn for every value. -/
theorem bare_total (standard : d.theme = .standard) (writable : o.isWritable = true)
    (length : (writtenNumeral d.config.textMaxlength).isOk = true) {kind : ControlKind}
    (timeless : kind.temporal? = none) (today : Date) :
    ∃ hs, d.bare kind desc o today = .ok hs := by
  have input : ∃ hs, d.input desc o = .ok hs := by
    obtain ⟨maxlength, written⟩ := exists_of_isOk length
    exact input_total standard writable written desc
  cases kind with
  | boolean =>
    refine attrs_total standard "controls/checkbox.html" BuiltIn.checkbox
      (by simp [Template.builtIn]) _ _ [] ?_ .nil
    exact FieldOptions.clean writable (by simp [isNameBreak])
  | textarea => exact textarea_total standard writable desc
  | date => cases timeless
  | time => cases timeless
  | datetime => cases timeless
  | file =>
    refine attrs_total standard "controls/input.html" BuiltIn.input
      (by simp [Template.builtIn]) _ _ [] ?_ .nil
    exact FieldOptions.clean_withClass writable (by simp [isNameBreak])
  | select => exact input
  | collection => exact input
  | text => exact input

/-- **When a scalar field cannot be drawn.** Its value has a part that is an infinite number. -/
theorem scalar_fails (standard : d.theme = .standard) (plain : o.htmlOptions = [])
    (unset : o.options = []) (length : (writtenNumeral d.config.textMaxlength).isOk = true)
    (shows : d.ShowsErrors desc.errors) {kind : ControlKind} (accepts : kind.Accepts desc.value)
    (today : Date) :
    FailsWith (fun e => e = .misuse .infinite ∧ kind.HasInfinite desc.value)
      (d.scalar kind desc o today) := by
  have bare : FailsWith (fun e => e = .misuse .infinite ∧ kind.HasInfinite desc.value)
      (d.bare kind desc o today) := by
    cases timed : kind.temporal? with
    | none =>
      have writable := FieldOptions.isWritable_of_plain plain
      exact .of_total (bare_total standard writable length timed today)
    | some t =>
      have unitless : ∀ unit ∈ t.units o.partOptions,
          Temporal.listsChoices o.partOptions unit = true := by
        intro unit _
        rw [FieldOptions.partOptions, unset]
        rfl
      have drawn : FailsWith (fun e => t.parts desc.value = .error e ∨
          e = .misuse .infinite ∧ t.ShowsInfinite o.partOptions desc.value)
          (d.temporal t desc o today) := temporal_fails standard unitless today
      rw [bare_temporal d desc o timed]
      refine drawn.mono fun e reason => ?_
      obtain ⟨parts, known⟩ := exists_of_isOk (accepts t timed)
      rw [known] at reason
      obtain ⟨isMisuse, infinite⟩ := reason.resolve_left (by simp)
      exact ⟨isMisuse, t, timed, Temporal.Kind.hasInfinite_of_shows infinite⟩
  refine bare.bind fun _ _ => ?_
  exact (FailsWith.of_total (errors_total shows)).thenReturn

theorem select_total (standard : d.theme = .standard) (writable : o.isWritable = true)
    (shows : d.ShowsErrors desc.errors) (choices : List SelectOption) :
    ∃ hs, d.select desc choices o = .ok hs := by
  obtain ⟨hs, drawn⟩ := attrs_total standard "controls/select.html" BuiltIn.select
    (by simp [Template.builtIn]) [("id", .text desc.id), ("name", .text desc.name)]
    (o.htmlOptions ++ [controlClass])
    [("options", .list (choices.map SelectOption.toValue)), ("prompt", .ofText? o.prompt)]
    (FieldOptions.clean_withClass writable (by simp [isNameBreak]))
    (choices_furnished choices o.prompt)
  obtain ⟨errors, said⟩ := errors_total shows
  refine ⟨hs ++ errors, ?_⟩
  unfold Drawing.select withErrors
  rw [drawn, said]
  rfl

end Drawing

end Formwright
