import Formwright.Proofs.Render.Choices
import Formwright.Proofs.Render.ScalarControls

/-!
# Forms whose faults are reported

There are few ways in which a form that is drawn with the built-in templates fails for something
that is not reported. An attribute that the options of a field set has a name that cannot be
written; a record has no list where members are read; the choices of a part of a date or time are no
list, or the part is an infinite number. Without these, every fault is one that the program reports.

- `Temporal.Kind.IsEditable`, `Renderer.IsDrawable`: none of these is found in an input.
- `input_reports`, `form_reports`.
-/

namespace Formwright

open Form Outcome Template

/-- The computation does not fail but for something that is reported. -/
abbrev FailsReported {α : Type} (x : Except Fault α) : Prop :=
  FailsWith (fun e => e.isReported = true) x

theorem Fault.isReported_of_isUnknown {e : Fault} (unknown : e.isUnknown = true) :
    e.isReported = true := by
  cases e with
  | unknownModel model => rfl
  | unknownField field model => rfl
  | _ => cases unknown

/-! ## Dates and times -/

namespace Temporal

theorem Kind.parts_reports (kind : Kind) (v : Value) : FailsReported (kind.parts v) := by
  have date : FailsReported (dateParts v) := by
    unfold dateParts
    split
    · exact .ok _
    · exact .error rfl
  have clock : FailsReported (clockParts v) := by
    unfold clockParts
    split
    · exact .ok _
    · exact .error rfl
  have entries : FailsReported (DateParts.entries <$> dateParts v) := date.map
  have clockEntries : FailsReported (ClockParts.entries <$> clockParts v) := clock.map
  cases kind with
  | date => exact entries.bind fun _ _ => .ok _
  | time => exact clockEntries.bind fun _ _ => .ok _
  | datetime => exact entries.bind fun _ _ => clockEntries.bind fun _ _ => .ok _

/-- If the value has parts, then those that are edited are no infinite numbers, and their units have
choices. -/
def Kind.IsEditable (kind : Kind) (options : List (Value × Value)) (v : Value) : Prop :=
  ∀ parts, kind.parts v = .ok parts → ∀ unit ∈ kind.units options,
    listsChoices options unit = true ∧ ((parts.lookup unit).getD .none).infinite? = none

end Temporal

namespace Drawing

variable {d : Drawing} {desc : Descriptor} {o : FieldOptions}

theorem temporal_reports (standard : d.theme = .standard) {kind : Temporal.Kind}
    (editable : kind.IsEditable o.partOptions desc.value) (today : Date) :
    FailsReported (d.temporal kind desc o today) := by
  cases known : kind.parts desc.value with
  | error e =>
    have refused : kind.selects desc.value ⟨desc.id, desc.name, o.partOptions, today,
        d.config.yearSpan⟩ = .error e := by
      rw [Temporal.Kind.selects, known]
      rfl
    have drawn : d.temporal kind desc o today = .error e := by
      unfold Drawing.temporal
      exact congrArg (· >>= _) refused
    rw [drawn]
    exact .error (kind.parts_reports desc.value e known)
  | ok parts =>
    refine (temporal_fails standard (fun unit mem => (editable parts known unit mem).1)
      today).mono fun e reason => ?_
    rw [known] at reason
    obtain ⟨-, parts', same, unit, mem, infinite⟩ := reason.resolve_left (by simp)
    cases known.symm.trans same
    rw [(editable parts known unit mem).2] at infinite
    cases infinite

end Drawing

/-! ## Inputs and forms -/

namespace Render.Renderer

variable {r : Renderer} {c : Context} {f : Frame} {field : String} {o : FieldOptions}

theorem covering_isReported : Covering fun e => e.isReported = true where
  unknown _ := Fault.isReported_of_isUnknown
  single _ _ := rfl
  compiled _ _ _ := rfl

/-- The control of the input has the attributes that its options set. Dates, times and choices of
any number of members leave them out. -/
def spreads (r : Renderer) (model field : String) (o : FieldOptions) : Bool :=
  !r.picksMany model field o && (r.kind? model field o).all (·.temporal?.isNone)

/-- An input in which nothing is found that is not reported. -/
structure IsDrawable (r : Renderer) (f : Frame) (field : String) (o : FieldOptions) : Prop where
  members : r.picksMany f.model field o = true → (r.selectedIds f field).isOk = true
  writable : r.spreads f.model field o = true → o.isWritable = true
  editable : ∀ kind t, r.kind? f.model field o = some kind → kind.temporal? = some t →
    t.IsEditable o.partOptions (f.value field)

/-- **The faults of a drawable input** with constant choices are reported. -/
theorem input_reports (plain : r.Plain c) (constant : r.HasConstantItems o)
    (drawable : r.IsDrawable f field o) : FailsReported (r.input c f field o) := by
  refine input_failsWith (fun _ => Fault.isReported_of_isUnknown) plain
    (itemsOf_total constant c f.record) drawable.members
    (fun chosen single desc choices shows => ?_) fun kind found desc value => ?_
  · have kindless : r.kind? f.model field o = none := by rw [kind?, if_pos chosen]
    have writable := drawable.writable (by rw [spreads, single, kindless]; rfl)
    exact .of_total (Drawing.select_total plain.standard writable shows choices)
  · cases timed : kind.temporal? with
    | none =>
      have single : r.picksMany f.model field o = false := by
        by_contra picks
        rw [kind?, if_pos (Bool.and_eq_true_iff.mp (Bool.not_eq_false _ ▸ picks)).1] at found
        cases found
      have spread : r.spreads f.model field o = true := by
        rw [spreads, single, found, Option.all_some, timed]
        rfl
      have writable := drawable.writable spread
      exact .of_total (Drawing.bare_total plain.standard writable plain.length timed c.today)
    | some t =>
      rw [Drawing.bare_temporal _ _ _ timed]
      have editable := drawable.editable kind t found timed
      rw [← value] at editable
      exact Drawing.temporal_reports plain.standard editable c.today

/-- **The faults of a form** are reported if its inputs are drawable and have constant choices. -/
theorem form_reports (plain : r.Plain c) (tree : Tree)
    (listed : Node.AllEverywhere (Node.IsListed r) tree.nodes)
    (every : r.EveryInputOf r.IsDrawable (.ofContext c) tree.nodes) :
    FailsReported (r.form tree c) := by
  have parts : r.PartsFail (r.input c) (Node.IsListed r) r.IsDrawable
      fun e => e.isReported = true :=
    { standard := plain.standard, covering := covering_isReported, located := id,
      inputs := fun constant drawable => input_reports plain constant drawable }
  exact form_failsWith c parts listed every

end Render.Renderer

end Formwright
