import Formwright.Proofs.Render.ScalarControls
import Formwright.Proofs.Temporal.RoundTrip

/-!
# What is a date or a time

Any value may be stored where a date or a time is expected. This file says which of them are one,
without following the reader: `DateOf v p` and `ClockOf v p` list the shapes of values with their
components. From that it is known how every attempt to build selects ends. A value of another shape
is refused as such. A value of a known shape has one select per unit, with at most one choice
selected, unless a component to be shown is infinite: such a number has no whole part, and the
attempt to take it is not guarded.

- `dateParts?_iff`, `clockParts?_iff`: the reader knows exactly the shapes that are listed.
- `parts_refused`, `parts_recognized`: which values of a kind are taken apart.
- `chosen_single`, `chosen_blank`: what one select has selected.
- `selects_ends`: the main result.
-/

namespace Formwright.Temporal

open Outcome

/-! ## Shapes -/

/-- A tuple has no tuple in it. -/
def IsFlat (items : List Value) : Prop := ∀ v ∈ items, ∀ inner, v ≠ .tuple inner

theorem holdsTuple_iff {items : List Value} : holdsTuple items = false ↔ IsFlat items := by
  unfold holdsTuple
  rw [List.any_eq_false]
  constructor
  · rintro none v mem inner rfl
    exact none _ mem rfl
  · intro flat v mem
    cases v with
    | tuple inner => exact absurd rfl (flat _ mem inner)
    | _ => exact Bool.false_ne_true

/-- A flat tuple of year, month and day. -/
inductive FlatDate : Value → DateParts → Prop where
  | three {year month day : Value} (flat : IsFlat [year, month, day]) :
      FlatDate (.tuple [year, month, day]) ⟨year, month, day⟩

/-- A flat tuple of hour, minute and second, and perhaps of microseconds, which are not kept. -/
inductive FlatClock : Value → ClockParts → Prop where
  | three {hour minute second : Value} (flat : IsFlat [hour, minute, second]) :
      FlatClock (.tuple [hour, minute, second]) ⟨hour, minute, second⟩
  | four {hour minute second micro : Value} (flat : IsFlat [hour, minute, second, micro]) :
      FlatClock (.tuple [hour, minute, second, micro]) ⟨hour, minute, second⟩

/-- A value is a date with some components, which may be of any kind. -/
inductive DateOf : Value → DateParts → Prop where
  | absent : DateOf .none ⟨.none, .none, .none⟩
  | table {entries : List (Value × Value)} {year month day : Value}
      (atYear : Value.named? entries "year" = some year)
      (atMonth : Value.named? entries "month" = some month)
      (atDay : Value.named? entries "day" = some day) :
      DateOf (.table entries) ⟨year, month, day⟩
  | date (d : Date) : DateOf (.date d) ⟨.int d.year, .int d.month, .int d.day⟩
  | datetime (d : Date) (t : Clock) :
      DateOf (.datetime d t) ⟨.int d.year, .int d.month, .int d.day⟩
  | tuple {v : Value} {p : DateParts} (flat : FlatDate v p) : DateOf v p
  /-- What stands second in a pair is not looked at. -/
  | pair {v : Value} {p : DateParts} (other : Value) (flat : FlatDate v p) :
      DateOf (.tuple [v, other]) p

/-- A value is a time of day with some components, which may be of any kind. -/
inductive ClockOf : Value → ClockParts → Prop where
  | absent : ClockOf .none ⟨.none, .none, .none⟩
  /-- The second may be left out of a table. -/
  | table {entries : List (Value × Value)} {hour minute : Value}
      (atHour : Value.named? entries "hour" = some hour)
      (atMinute : Value.named? entries "min" = some minute) :
      ClockOf (.table entries) ⟨hour, minute, (Value.named? entries "sec").getD (.int 0)⟩
  | time (t : Clock) : ClockOf (.time t) ⟨.int t.hour, .int t.minute, .int t.second⟩
  | datetime (d : Date) (t : Clock) :
      ClockOf (.datetime d t) ⟨.int t.hour, .int t.minute, .int t.second⟩
  | tuple {v : Value} {p : ClockParts} (flat : FlatClock v p) : ClockOf v p
  /-- What stands first in a pair is not looked at. -/
  | pair {v : Value} {p : ClockParts} (other : Value) (flat : FlatClock v p) :
      ClockOf (.tuple [other, v]) p

theorem dateTuple?_iff {v : Value} {p : DateParts} : dateTuple? v = some p ↔ FlatDate v p := by
  constructor
  · intro read
    unfold dateTuple? at read
    split at read
    · split at read
      · cases read
      · rename_i flat
        cases read
        exact .three (holdsTuple_iff.mp (Bool.eq_false_iff.mpr flat))
    · cases read
  · rintro ⟨flat⟩
    rw [dateTuple?, holdsTuple_iff.mpr flat]
    rfl

theorem clockTuple?_iff {v : Value} {p : ClockParts} :
    clockTuple? v = some p ↔ FlatClock v p := by
  constructor
  · intro read
    unfold clockTuple? at read
    split at read
    · split at read
      · cases read
      · rename_i flat
        cases read
        exact .three (holdsTuple_iff.mp (Bool.eq_false_iff.mpr flat))
    · split at read
      · cases read
      · rename_i flat
        cases read
        exact .four (holdsTuple_iff.mp (Bool.eq_false_iff.mpr flat))
    · cases read
  · intro flat
    cases flat with
    | three flat =>
      rw [clockTuple?, holdsTuple_iff.mpr flat]
      rfl
    | four flat =>
      rw [clockTuple?, holdsTuple_iff.mpr flat]
      rfl

/-- The reader of dates knows the shapes of dates and no others. -/
theorem dateParts?_iff {v : Value} {p : DateParts} : dateParts? v = some p ↔ DateOf v p := by
  constructor
  · intro read
    unfold dateParts? at read
    split at read
    · cases read
      exact .absent
    · obtain ⟨year, atYear, read⟩ := Option.bind_eq_some_iff.mp read
      obtain ⟨month, atMonth, read⟩ := Option.bind_eq_some_iff.mp read
      obtain ⟨day, atDay, read⟩ := Option.bind_eq_some_iff.mp read
      cases read
      exact .table atYear atMonth atDay
    · cases read
      exact .date _
    · cases read
      exact .datetime _ _
    · exact .pair _ (dateTuple?_iff.mp read)
    · exact .tuple (dateTuple?_iff.mp read)
  · intro shape
    cases shape with
    | absent => rfl
    | table atYear atMonth atDay =>
      simp only [dateParts?, atYear, atMonth, atDay]
      rfl
    | date d => rfl
    | datetime d t => rfl
    | tuple flat =>
      have flatRead := dateTuple?_iff.mpr flat
      cases flat with
      | three => exact flatRead
    | pair other flat => exact dateTuple?_iff.mpr flat

/-- The reader of times knows the shapes of times and no others. -/
theorem clockParts?_iff {v : Value} {p : ClockParts} : clockParts? v = some p ↔ ClockOf v p := by
  constructor
  · intro read
    unfold clockParts? at read
    split at read
    · cases read
      exact .absent
    · obtain ⟨hour, atHour, read⟩ := Option.bind_eq_some_iff.mp read
      obtain ⟨minute, atMinute, read⟩ := Option.bind_eq_some_iff.mp read
      cases read
      exact .table atHour atMinute
    · cases read
      exact .time _
    · cases read
      exact .datetime _ _
    · exact .pair _ (clockTuple?_iff.mp read)
    · exact .tuple (clockTuple?_iff.mp read)
  · intro shape
    cases shape with
    | absent => rfl
    | table atHour atMinute =>
      simp only [clockParts?, atHour, atMinute]
      rfl
    | time t => rfl
    | datetime d t => rfl
    | tuple flat =>
      have flatRead := clockTuple?_iff.mpr flat
      cases flat with
      | three => exact flatRead
      | four => exact flatRead
    | pair other flat => exact clockTuple?_iff.mpr flat

/-! ## Taking a value apart -/

/-- A value is a date. -/
def IsDate (v : Value) : Prop := ∃ p, DateOf v p

/-- A value is a time of day. -/
def IsClock (v : Value) : Prop := ∃ p, ClockOf v p

/-- A value has the shape of what a kind edits: of a date, of a time of day, or of both. -/
structure Kind.Recognizes (kind : Kind) (v : Value) : Prop where
  date : kind.hasDate = true → IsDate v
  clock : kind.hasClock = true → IsClock v

/-- A component of a date or time. -/
inductive IsPart (v : Value) : Unit → Value → Prop where
  | year {p : DateParts} (shape : DateOf v p) : IsPart v .year p.year
  | month {p : DateParts} (shape : DateOf v p) : IsPart v .month p.month
  | day {p : DateParts} (shape : DateOf v p) : IsPart v .day p.day
  | hour {p : ClockParts} (shape : ClockOf v p) : IsPart v .hour p.hour
  | minute {p : ClockParts} (shape : ClockOf v p) : IsPart v .minute p.minute
  | second {p : ClockParts} (shape : ClockOf v p) : IsPart v .second p.second

theorem dateOf_unique {v : Value} {p q : DateParts} (hp : DateOf v p) (hq : DateOf v q) :
    p = q := by
  have read := dateParts?_iff.mpr hp
  rw [dateParts?_iff.mpr hq] at read
  exact (Option.some.inj read).symm

theorem clockOf_unique {v : Value} {p q : ClockParts} (hp : ClockOf v p) (hq : ClockOf v q) :
    p = q := by
  have read := clockParts?_iff.mpr hp
  rw [clockParts?_iff.mpr hq] at read
  exact (Option.some.inj read).symm

theorem isPart_unique {v w w' : Value} {unit : Unit} (hw : IsPart v unit w)
    (hw' : IsPart v unit w') : w = w' := by
  cases hw with
  | year shape => cases hw' with | year shape' => rw [dateOf_unique shape shape']
  | month shape => cases hw' with | month shape' => rw [dateOf_unique shape shape']
  | day shape => cases hw' with | day shape' => rw [dateOf_unique shape shape']
  | hour shape => cases hw' with | hour shape' => rw [clockOf_unique shape shape']
  | minute shape => cases hw' with | minute shape' => rw [clockOf_unique shape shape']
  | second shape => cases hw' with | second shape' => rw [clockOf_unique shape shape']

theorem dateParts_ok {v : Value} {p : DateParts} : dateParts v = .ok p ↔ DateOf v p := by
  rw [← dateParts?_iff, dateParts]
  cases dateParts? v with
  | none => simp
  | some q => simp

theorem clockParts_ok {v : Value} {p : ClockParts} : clockParts v = .ok p ↔ ClockOf v p := by
  rw [← clockParts?_iff, clockParts]
  cases clockParts? v with
  | none => simp
  | some q => simp

theorem dateParts_refused {v : Value} (other : ¬ IsDate v) :
    dateParts v = .error (.unrecognizedDate v) := by
  unfold dateParts
  split
  · rename_i p read
    exact absurd ⟨p, dateParts?_iff.mp read⟩ other
  · rfl

theorem clockParts_refused {v : Value} (other : ¬ IsClock v) :
    clockParts v = .error (.unrecognizedTime v) := by
  unfold clockParts
  split
  · rename_i p read
    exact absurd ⟨p, clockParts?_iff.mp read⟩ other
  · rfl

/-- The faults of a value that has not the shape it should have. Their messages show the value. -/
inductive IsRefusal (v : Value) : Fault → Prop where
  | date (shown : v.isShowable = true) : IsRefusal v (.unrecognizedDate v)
  | time (shown : v.isShowable = true) : IsRefusal v (.unrecognizedTime v)

theorem parts_refused {kind : Kind} {v : Value} (showable : v.isShowable = true)
    (other : ¬ kind.Recognizes v) : ∃ e, kind.parts v = .error e ∧ IsRefusal v e := by
  by_cases date : kind.hasDate = true → IsDate v
  · have noClock : ¬ (kind.hasClock = true → IsClock v) := fun clock => other ⟨date, clock⟩
    obtain ⟨has, unknown⟩ := Classical.not_imp.mp noClock
    refine ⟨_, ?_, .time showable⟩
    cases kind with
    | date => cases has
    | time => simp [Kind.parts, Kind.hasDate, Kind.hasClock, clockParts_refused unknown]
    | datetime =>
      obtain ⟨p, shape⟩ := date rfl
      simp [Kind.parts, Kind.hasDate, Kind.hasClock, dateParts_ok.mpr shape,
        clockParts_refused unknown]
  · obtain ⟨has, unknown⟩ := Classical.not_imp.mp date
    refine ⟨_, ?_, .date showable⟩
    simp [Kind.parts, has, dateParts_refused unknown]

/-- A value of a shape that is known is taken apart: for each unit of the kind there is the
component. -/
theorem parts_recognized {kind : Kind} {v : Value} (known : kind.Recognizes v) :
    ∃ parts, kind.parts v = .ok parts ∧ ∀ seconds, ∀ unit ∈ kind.unitsWith seconds,
      ∃ w, parts.lookup unit = some w ∧ IsPart v unit w := by
  cases kind with
  | date =>
    obtain ⟨p, shape⟩ := known.date rfl
    refine ⟨p.entries, ?_, fun seconds unit mem => ?_⟩
    · simp [Kind.parts, Kind.hasDate, Kind.hasClock, dateParts_ok.mpr shape]
    · cases unit with
      | year => exact ⟨_, rfl, .year shape⟩
      | month => exact ⟨_, rfl, .month shape⟩
      | day => exact ⟨_, rfl, .day shape⟩
      | _ => exact absurd (units_ofKind mem) (by decide)
  | time =>
    obtain ⟨p, shape⟩ := known.clock rfl
    refine ⟨p.entries, ?_, fun seconds unit mem => ?_⟩
    · simp [Kind.parts, Kind.hasDate, Kind.hasClock, clockParts_ok.mpr shape]
    · cases unit with
      | hour => exact ⟨_, rfl, .hour shape⟩
      | minute => exact ⟨_, rfl, .minute shape⟩
      | second => exact ⟨_, rfl, .second shape⟩
      | _ => exact absurd (units_ofKind mem) (by decide)
  | datetime =>
    obtain ⟨p, date⟩ := known.date rfl
    obtain ⟨q, clock⟩ := known.clock rfl
    refine ⟨p.entries ++ q.entries, ?_, fun seconds unit _ => ?_⟩
    · simp [Kind.parts, Kind.hasDate, Kind.hasClock, dateParts_ok.mpr date,
        clockParts_ok.mpr clock]
    · cases unit with
      | year => exact ⟨_, rfl, .year date⟩
      | month => exact ⟨_, rfl, .month date⟩
      | day => exact ⟨_, rfl, .day date⟩
      | hour => exact ⟨_, rfl, .hour clock⟩
      | minute => exact ⟨_, rfl, .minute clock⟩
      | second => exact ⟨_, rfl, .second clock⟩

/-! ## What a select has selected -/

theorem select_unit {s : Setting} {parts : List (Unit × Value)} {before : Option Unit}
    {unit : Unit} {c : Select} (built : s.select parts before unit = .ok c) : c.unit = unit := by
  obtain ⟨choices, -, built⟩ := bind_eq_ok.mp built
  obtain ⟨current, -, built⟩ := bind_eq_ok.mp built
  cases built
  rfl

/-- The selects that were built are those of the units, in order. -/
theorem selectsAfter_built {s : Setting} {parts : List (Unit × Value)} {previous : Option Unit}
    {units : List Unit} {selects : List Select}
    (built : s.selectsAfter parts previous units = .ok selects) :
    selects.map (·.unit) = units ∧
      ∀ c ∈ selects, ∃ before, s.select parts before c.unit = .ok c := by
  induction units generalizing previous selects with
  | nil =>
    cases built
    exact ⟨rfl, nofun⟩
  | cons unit rest ih =>
    obtain ⟨first, drawn, built⟩ := bind_eq_ok.mp built
    obtain ⟨others, drawnRest, built⟩ := bind_eq_ok.mp built
    cases built
    obtain ⟨units, each⟩ := ih drawnRest
    have own := select_unit drawn
    refine ⟨by rw [List.map_cons, own, units], fun c mem => ?_⟩
    rcases List.mem_cons.mp mem with rfl | mem
    · rw [own]
      exact ⟨previous, drawn⟩
    · exact each c mem

/-- No two default choices of a unit have the same value. -/
theorem defaultChoices_nodup (today : Date) (span : Int) (unit : Unit) :
    ((defaultChoices today span unit).map (·.2)).Nodup := by
  rw [defaultChoices_values]
  refine List.Nodup.map (fun i j same => ?_) List.nodup_range
  have number := Text.intNumeral_injective same
  omega

theorem intNumeral_ne_empty (z : Int) : toString z ≠ "" := by
  cases z with
  | ofNat n =>
    intro empty
    exact Text.numeral_ne_nil n (congrArg String.toList empty)
  | negSucc n =>
    intro empty
    have chars := congrArg String.toList empty
    rw [Text.toList_negative] at chars
    cases chars

/-- A select without choices of its own marks the values of the default choices that are equal to
what it is given. -/
theorem chosen_default {s : Setting} {parts : List (Unit × Value)} {before : Option Unit}
    {unit : Unit} {c : Select} (left : leavesChoices s.options unit = true)
    (built : s.select parts before unit = .ok c) :
    ∃ current, normalized ((parts.lookup unit).getD .none) = .ok current ∧
      c.chosen = ((defaultChoices s.today s.yearSpan unit).map (·.2)).filter (· == current) := by
  unfold Setting.select at built
  rw [unitChoices_default left, ok_bind] at built
  obtain ⟨current, normal, built⟩ := bind_eq_ok.mp built
  cases built
  refine ⟨current, normal, ?_⟩
  have compared : ∀ c ∈ defaultChoices s.today s.yearSpan unit,
      (normalizedText c.2 == current) = (c.2 == current) := by
    intro c mem
    rw [normalizedText_choice mem]
  rw [Select.chosen, List.filter_map, List.map_map, List.filter_map]
  refine congrArg _ (List.filter_congr ?_)
  exact compared

theorem chosen_single {s : Setting} {parts : List (Unit × Value)} {before : Option Unit}
    {unit : Unit} {c : Select} (left : leavesChoices s.options unit = true)
    (built : s.select parts before unit = .ok c) : c.chosen.length ≤ 1 := by
  obtain ⟨current, -, chosen⟩ := chosen_default left built
  rw [chosen, List.filter_beq, List.length_replicate]
  exact List.nodup_iff_count_le_one.mp (defaultChoices_nodup _ _ _) current

/-- Nothing is selected for a component that is not there. -/
theorem chosen_blank {s : Setting} {parts : List (Unit × Value)} {before : Option Unit}
    {unit : Unit} {c : Select} (left : leavesChoices s.options unit = true)
    (built : s.select parts before unit = .ok c) (absent : parts.lookup unit = some .none) :
    c.chosen = [] := by
  obtain ⟨current, normal, chosen⟩ := chosen_default left built
  rw [absent] at normal
  cases normal
  rw [chosen, defaultChoices_values, List.filter_eq_nil_iff]
  intro value mem
  obtain ⟨i, -, rfl⟩ := List.mem_map.mp mem
  rw [beq_iff_eq]
  exact intNumeral_ne_empty _

/-! ## How building ends -/

theorem leavesChoices_lists {options : List (Value × Value)} {unit : Unit}
    (left : leavesChoices options unit = true) : listsChoices options unit = true := by
  unfold leavesChoices at left
  unfold listsChoices
  split
  · rename_i own found
    simp only [found, Option.isNone_iff_eq_none] at left
    rw [left]
    rfl
  · rfl

theorem normalized_infinite {v : Value} (infinite : v.infinite?.isSome = true) :
    normalized v = .error (.misuse .infinite) := by
  unfold Value.infinite? at infinite
  split at infinite
  · rfl
  · rfl
  · cases infinite

/-- A component to be shown is infinite. -/
def Kind.MeetsInfinite (kind : Kind) (options : List (Value × Value)) (v : Value) : Prop :=
  ∃ unit ∈ kind.units options, ∃ w, IsPart v unit w ∧ w.infinite?.isSome = true

/-- The selects of a value: one per unit, in order, each with at most one choice selected and with
none for a component that is not there. -/
structure Kind.Edited (kind : Kind) (options : List (Value × Value)) (v : Value)
    (selects : List Select) : Prop where
  units : selects.map (·.unit) = kind.units options
  single : ∀ c ∈ selects, c.chosen.length ≤ 1
  blank : ∀ c ∈ selects, IsPart v c.unit .none → c.chosen = []

section

variable {kind : Kind} {s : Setting} {v : Value}

theorem selects_refused (showable : v.isShowable = true) (unknown : ¬ kind.Recognizes v) :
    ∃ e, kind.selects v s = .error e ∧ IsRefusal v e := by
  obtain ⟨e, read, isRefusal⟩ := parts_refused showable unknown
  refine ⟨e, ?_, isRefusal⟩
  rw [Kind.selects, read]
  rfl

variable (left : ∀ unit ∈ kind.units s.options, leavesChoices s.options unit = true)

include left

/-- An infinite component cannot be shown. -/
theorem selects_infinite (known : kind.Recognizes v) (infinite : kind.MeetsInfinite s.options v) :
    kind.selects v s = .error (.misuse .infinite) := by
  obtain ⟨parts, read, each⟩ := parts_recognized known
  have lists : ∀ unit ∈ kind.units s.options, listsChoices s.options unit = true :=
    fun unit mem => leavesChoices_lists (left unit mem)
  rw [Kind.selects, read, ok_bind]
  cases ended : s.selectsAfter parts none (kind.units s.options) with
  | error e => rw [(selectsAfter_fails parts none lists e ended).1]
  | ok selects =>
    -- there is a select of the infinite component, so the component was compared
    obtain ⟨unit, mem, w, part, isInfinite⟩ := infinite
    obtain ⟨units, built⟩ := selectsAfter_built ended
    obtain ⟨w', found, part'⟩ := each _ unit mem
    obtain ⟨c, drawn, rfl⟩ : ∃ c ∈ selects, c.unit = unit := by
      rw [← units] at mem
      exact List.mem_map.mp mem
    obtain ⟨before, drawn⟩ := built c drawn
    obtain ⟨current, normal, -⟩ := chosen_default (left _ mem) drawn
    rw [found, isPart_unique part' part, Option.getD_some, normalized_infinite isInfinite] at normal
    cases normal

theorem selects_finite (known : kind.Recognizes v)
    (finite : ¬ kind.MeetsInfinite s.options v) :
    ∃ selects, kind.selects v s = .ok selects ∧ kind.Edited s.options v selects := by
  obtain ⟨parts, read, each⟩ := parts_recognized known
  have lists : ∀ unit ∈ kind.units s.options, listsChoices s.options unit = true :=
    fun unit mem => leavesChoices_lists (left unit mem)
  rw [Kind.selects, read, ok_bind]
  cases ended : s.selectsAfter parts none (kind.units s.options) with
  | error e =>
    obtain ⟨-, unit, mem, isInfinite⟩ := selectsAfter_fails parts none lists e ended
    obtain ⟨w, found, part⟩ := each _ unit mem
    rw [found] at isInfinite
    exact absurd ⟨unit, mem, w, part, isInfinite⟩ finite
  | ok selects =>
    obtain ⟨units, built⟩ := selectsAfter_built ended
    have shown : ∀ c ∈ selects, c.unit ∈ kind.units s.options := by
      intro c mem
      rw [← units]
      exact List.mem_map_of_mem mem
    refine ⟨selects, rfl, units, fun c mem => ?_, fun c mem absent => ?_⟩
    · obtain ⟨before, drawn⟩ := built c mem
      exact chosen_single (left _ (shown c mem)) drawn
    · obtain ⟨before, drawn⟩ := built c mem
      obtain ⟨w, found, part⟩ := each _ _ (shown c mem)
      rw [isPart_unique part absent] at found
      exact chosen_blank (left _ (shown c mem)) drawn found

end

/-- **How building ends.** Of a value that can be shown, one that has not the shape of what is
edited is refused as such, one of that shape with an infinite component to be shown ends with the
fault of an infinite number, and any other is edited by one select per unit, in order, each with at
most one choice selected and with none for a component that is not there. Units have their default
choices. -/
theorem selects_ends (kind : Kind) (s : Setting) (v : Value) (showable : v.isShowable = true)
    (left : ∀ unit ∈ kind.units s.options, leavesChoices s.options unit = true) :
    ((∃ e, kind.selects v s = .error e ∧ IsRefusal v e) ↔ ¬ kind.Recognizes v) ∧
    (kind.selects v s = .error (.misuse .infinite) ↔
      kind.Recognizes v ∧ kind.MeetsInfinite s.options v) ∧
    ((∃ selects, kind.selects v s = .ok selects ∧ kind.Edited s.options v selects) ↔
      kind.Recognizes v ∧ ¬ kind.MeetsInfinite s.options v) := by
  by_cases known : kind.Recognizes v
  · by_cases infinite : kind.MeetsInfinite s.options v
    · have ended := selects_infinite left known infinite
      refine ⟨⟨?_, fun other => absurd known other⟩, ⟨fun _ => ⟨known, infinite⟩, fun _ => ended⟩,
        ⟨?_, fun finite => absurd infinite finite.2⟩⟩
      · rintro ⟨e, refused, isRefusal⟩
        rw [ended] at refused
        cases refused
        cases isRefusal
      · rintro ⟨selects, drawn, -⟩
        rw [ended] at drawn
        cases drawn
    · obtain ⟨selects, drawn, edited⟩ := selects_finite left known infinite
      refine ⟨⟨?_, fun other => absurd known other⟩, ⟨?_, fun h => absurd h.2 infinite⟩,
        ⟨fun _ => ⟨known, infinite⟩, fun _ => ⟨selects, drawn, edited⟩⟩⟩
      · rintro ⟨e, refused, -⟩
        rw [drawn] at refused
        cases refused
      · intro ended
        rw [drawn] at ended
        cases ended
  · obtain ⟨e, refused, isRefusal⟩ : ∃ e, kind.selects v s = .error e ∧ IsRefusal v e :=
      selects_refused showable known
    refine ⟨⟨fun _ => known, fun _ => ⟨e, refused, isRefusal⟩⟩, ⟨?_, fun h => absurd h.1 known⟩,
      ⟨?_, fun h => absurd h.1 known⟩⟩
    · intro ended
      rw [refused] at ended
      cases ended
      cases isRefusal
    · rintro ⟨selects, drawn, -⟩
      rw [refused] at drawn
      cases drawn

/-- A pair with a month that is no number, a day that is not there and a second that is a list. -/
theorem selects_ends_pair :
    let v : Value := .tuple [.tuple [.text " 2024", .text "June", .none],
      .tuple [.float (.infinite true), .bool true, .list [.text "7"], .none]]
    v.isShowable = true ∧ (∀ unit ∈ Kind.datetime.units [], leavesChoices [] unit = true) ∧
    (∃ selects, Kind.date.selects v yearSetting = .ok selects ∧
      Kind.date.Edited yearSetting.options v selects) ∧
    Kind.datetime.selects v yearSetting = .error (.misuse .infinite) := by
  intro v
  have date : DateOf v ⟨.text " 2024", .text "June", .none⟩ := .pair _ (.three (by simp [IsFlat]))
  have clock : ClockOf v ⟨.float (.infinite true), .bool true, .list [.text "7"]⟩ :=
    .pair _ (.four (by simp [IsFlat]))
  have finite : ¬ Kind.date.MeetsInfinite yearSetting.options v := by
    rintro ⟨unit, mem, w, part, infinite⟩
    cases unit with
    | year => cases isPart_unique part (.year date) ▸ infinite
    | month => cases isPart_unique part (.month date) ▸ infinite
    | day => cases isPart_unique part (.day date) ▸ infinite
    | _ => exact absurd mem (by decide)
  have dates := selects_ends .date yearSetting v (by decide) (by decide)
  have both := selects_ends .datetime yearSetting v (by decide) (by decide)
  refine ⟨by decide, by decide, dates.2.2.mpr ⟨⟨fun _ => ⟨_, date⟩, nofun⟩, finite⟩, ?_⟩
  exact both.2.1.mpr ⟨⟨fun _ => ⟨_, date⟩, fun _ => ⟨_, clock⟩⟩,
    .hour, by decide, _, .hour clock, rfl⟩

/-- **An infinite year.** A table with a year, a month and a day is a date, and building its selects
ends with a fault that is no refusal of its shape. -/
theorem infinite_year_escapes :
    let v : Value := .table (Value.entriesOfNamed
      [("year", .float (.infinite false)), ("month", .int 1), ("day", .int 1)])
    Kind.date.Recognizes v ∧ Kind.date.selects v yearSetting = .error (.misuse .infinite) ∧
      ¬ IsRefusal v (.misuse .infinite) := by
  intro v
  refine ⟨⟨fun _ => ⟨_, .table rfl rfl rfl⟩, nofun⟩, rfl, nofun⟩

end Formwright.Temporal
