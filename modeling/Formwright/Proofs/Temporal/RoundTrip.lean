import Mathlib.Data.List.Nodup
import Formwright.Proofs.Outcome
import Formwright.Proofs.Text.Numerals
import Formwright.Proofs.Value.Named
import Formwright.Temporal.Selects

/-!
# Dates and times that are edited

A date or time may be stored in several shapes, with its components as numbers or as numerals. The
selects that edit it do not depend on the shape, each of them has one choice selected, and what is
selected is the same date or time again.

- `Stands`, `DateShape`, `ClockShape`: the shapes in which a date or a time of day is stored.
- `Setting.editing`: the selects for a date and a time, made without looking at a stored value.
- `Kind.Holds`, `selects_holds`: a value that has the components is edited by these selects.
- `chosen_editing`: each has one choice selected.
- `selects_roundTrip`: the main result.
-/

namespace Formwright.Temporal

open Outcome

/-! ## Stored components -/

/-- A value stands for a number: it is the number, or its numeral after zeros, as far as numerals
are read. -/
inductive Stands : Value → Nat → Prop where
  | int (n : Nat) : Stands (.int n) n
  | text (zeros n : Nat) (readable : (Text.zeroPadded zeros n).length ≤ Text.maxDigits) :
      Stands (.text (Text.zeroPadded zeros n)) n

theorem numeral?_small {n : Nat} (small : n ≤ 9999) :
    Text.numeral? (n : Int) = some (toString n) := by
  have within : n < 10 ^ Text.maxDigits :=
    calc n < 10 ^ 4 := Nat.lt_succ_of_le small
      _ ≤ 10 ^ Text.maxDigits := Nat.pow_le_pow_right (by decide) (by decide)
  rw [Text.numeral?, Nat.pow_eq, Int.natAbs_natCast, if_pos within]
  rfl

theorem normalized_whole {v : Value} {n : Nat} (given : v.isNone = false)
    (whole : whole? v = .ok (some (n : Int))) (small : n ≤ 9999) :
    normalized v = .ok (toString n) := by
  simp only [normalized, given, whole, Bool.false_eq_true, if_false, ok_bind, pure_eq,
    Option.bind_eq_bind, Option.bind_some, numeral?_small small, Option.getD_some]

theorem normalized_stands {v : Value} {n : Nat} (h : Stands v n) (small : n ≤ 9999) :
    normalized v = .ok (toString n) := by
  cases h with
  | int => exact normalized_whole rfl rfl small
  | text zeros n readable =>
    refine normalized_whole rfl ?_ small
    rw [whole?, Text.readWhole_zeroPadded, if_pos readable]

theorem normalizedText_numeral (z : Int) : normalizedText (toString z) = toString z := by
  unfold normalizedText
  cases read : Text.readWhole (toString z) with
  | none => rfl
  | some n =>
    rw [Text.readWhole_numeral read]
    simp only [Text.numeral?, Option.bind_eq_bind, Option.bind_some]
    split <;> rfl

/-- The component of a date and a time of day. -/
def component (d : Date) (t : Clock) : Unit → Nat
  | .year => d.year
  | .month => d.month
  | .day => d.day
  | .hour => t.hour
  | .minute => t.minute
  | .second => t.second

/-! ## Shapes -/

/-- A value has the components of a date, in one of the shapes of dates. -/
inductive DateShape (d : Date) : Value → Prop where
  | date : DateShape d (.date d)
  | datetime (t : Clock) : DateShape d (.datetime d t)
  | table {entries : List (Value × Value)} {year month day : Value}
      (atYear : Value.named? entries "year" = some year)
      (atMonth : Value.named? entries "month" = some month)
      (atDay : Value.named? entries "day" = some day)
      (y : Stands year d.year) (m : Stands month d.month) (n : Stands day d.day) :
      DateShape d (.table entries)
  /-- A date tuple before a time tuple, which is not looked at. -/
  | pair {year month day : Value} (clock : Value)
      (y : Stands year d.year) (m : Stands month d.month) (n : Stands day d.day) :
      DateShape d (.tuple [.tuple [year, month, day], clock])
  | tuple {year month day : Value}
      (y : Stands year d.year) (m : Stands month d.month) (n : Stands day d.day) :
      DateShape d (.tuple [year, month, day])

/-- Hour, minute and second, and perhaps microseconds, which are not looked at. -/
inductive ClockTuple (t : Clock) : Value → Prop where
  | seconds {hour minute second : Value} (h : Stands hour t.hour) (m : Stands minute t.minute)
      (s : Stands second t.second) : ClockTuple t (.tuple [hour, minute, second])
  | micros {hour minute second : Value} (micro : Int) (h : Stands hour t.hour)
      (m : Stands minute t.minute) (s : Stands second t.second) :
      ClockTuple t (.tuple [hour, minute, second, .int micro])

/-- A value has the components of a time of day, in one of the shapes of times. -/
inductive ClockShape (t : Clock) : Value → Prop where
  | time : ClockShape t (.time t)
  | datetime (d : Date) : ClockShape t (.datetime d t)
  /-- A table without a second is for second zero. -/
  | table {entries : List (Value × Value)} {hour minute : Value}
      (atHour : Value.named? entries "hour" = some hour)
      (atMinute : Value.named? entries "min" = some minute)
      (h : Stands hour t.hour) (m : Stands minute t.minute)
      (s : Stands ((Value.named? entries "sec").getD (.int 0)) t.second) :
      ClockShape t (.table entries)
  | pair {clock : Value} (date : Value) (given : ClockTuple t clock) :
      ClockShape t (.tuple [date, clock])
  | tuple {clock : Value} (given : ClockTuple t clock) : ClockShape t clock

/-- A value has the components that a kind edits. -/
structure Kind.Shape (kind : Kind) (d : Date) (t : Clock) (v : Value) : Prop where
  date : kind.hasDate = true → DateShape d v
  clock : kind.hasClock = true → ClockShape t v

theorem dateParts_shape {d : Date} {v : Value} (h : DateShape d v) :
    ∃ p, dateParts v = .ok p ∧
      Stands p.year d.year ∧ Stands p.month d.month ∧ Stands p.day d.day := by
  cases h with
  | date => exact ⟨_, rfl, .int _, .int _, .int _⟩
  | datetime t => exact ⟨_, rfl, .int _, .int _, .int _⟩
  | table atYear atMonth atDay y m n =>
    rename_i entries year month day
    refine ⟨⟨year, month, day⟩, ?_, y, m, n⟩
    simp only [dateParts, dateParts?, atYear, atMonth, atDay]
    rfl
  | pair clock y m n =>
    refine ⟨⟨_, _, _⟩, ?_, y, m, n⟩
    cases y <;> cases m <;> cases n <;> rfl
  | tuple y m n =>
    refine ⟨⟨_, _, _⟩, ?_, y, m, n⟩
    cases y <;> cases m <;> cases n <;> rfl

theorem clockTuple?_given {t : Clock} {v : Value} (h : ClockTuple t v) :
    ∃ p, clockTuple? v = some p ∧
      Stands p.hour t.hour ∧ Stands p.minute t.minute ∧ Stands p.second t.second := by
  cases h with
  | seconds h m s =>
    refine ⟨⟨_, _, _⟩, ?_, h, m, s⟩
    cases h <;> cases m <;> cases s <;> rfl
  | micros micro h m s =>
    refine ⟨⟨_, _, _⟩, ?_, h, m, s⟩
    cases h <;> cases m <;> cases s <;> rfl

theorem clockParts_shape {t : Clock} {v : Value} (h : ClockShape t v) :
    ∃ p, clockParts v = .ok p ∧
      Stands p.hour t.hour ∧ Stands p.minute t.minute ∧ Stands p.second t.second := by
  cases h with
  | time => exact ⟨_, rfl, .int _, .int _, .int _⟩
  | datetime d => exact ⟨_, rfl, .int _, .int _, .int _⟩
  | table atHour atMinute h m s =>
    rename_i entries hour minute
    refine ⟨⟨hour, minute, _⟩, ?_, h, m, s⟩
    simp only [clockParts, clockParts?, atHour, atMinute]
    rfl
  | pair date given =>
    obtain ⟨p, parts, stands⟩ := clockTuple?_given given
    refine ⟨p, ?_, stands⟩
    simp only [clockParts, clockParts?, parts]
  | tuple given =>
    obtain ⟨p, parts, stands⟩ := clockTuple?_given given
    refine ⟨p, ?_, stands⟩
    have tuple : clockParts? v = clockTuple? v := by
      cases given <;> rfl
    simp only [clockParts, tuple, parts]

/-! ## The selects of a date and a time -/

/-- A value has the components of some units. -/
def Kind.Holds (kind : Kind) (d : Date) (t : Clock) (units : List Unit) (v : Value) : Prop :=
  ∃ parts, kind.parts v = .ok parts ∧
    ∀ unit ∈ units, ∃ w, parts.lookup unit = some w ∧ Stands w (component d t unit)

/-- The units of a kind are looked up in its halves. -/
theorem holds_of_halves {kind : Kind} {d : Date} {t : Clock} {units : List Unit} {v : Value}
    (date : kind.hasDate = true → ∃ p, dateParts v = .ok p ∧
      Stands p.year d.year ∧ Stands p.month d.month ∧ Stands p.day d.day)
    (clock : kind.hasClock = true → ∃ p, clockParts v = .ok p ∧ Stands p.hour t.hour ∧
      Stands p.minute t.minute ∧ (.second ∈ units → Stands p.second t.second))
    (ofKind : ∀ unit ∈ units, if unit.isOfDate then kind.hasDate else kind.hasClock) :
    kind.Holds d t units v := by
  cases kind with
  | date =>
    obtain ⟨p, parts, y, m, n⟩ := date rfl
    refine ⟨p.entries, by simp [Kind.parts, Kind.hasDate, Kind.hasClock, parts], ?_⟩
    intro unit mem
    cases unit with
    | year => exact ⟨p.year, rfl, y⟩
    | month => exact ⟨p.month, rfl, m⟩
    | day => exact ⟨p.day, rfl, n⟩
    | _ => exact absurd (ofKind _ mem) (by decide)
  | time =>
    obtain ⟨p, parts, h, m, s⟩ := clock rfl
    refine ⟨p.entries, by simp [Kind.parts, Kind.hasDate, Kind.hasClock, parts], ?_⟩
    intro unit mem
    cases unit with
    | hour => exact ⟨p.hour, rfl, h⟩
    | minute => exact ⟨p.minute, rfl, m⟩
    | second => exact ⟨p.second, rfl, s mem⟩
    | _ => exact absurd (ofKind _ mem) (by decide)
  | datetime =>
    obtain ⟨p, dParts, y, m, n⟩ := date rfl
    obtain ⟨q, cParts, h, mi, s⟩ := clock rfl
    refine ⟨p.entries ++ q.entries,
      by simp [Kind.parts, Kind.hasDate, Kind.hasClock, dParts, cParts], ?_⟩
    intro unit mem
    cases unit with
    | year => exact ⟨p.year, rfl, y⟩
    | month => exact ⟨p.month, rfl, m⟩
    | day => exact ⟨p.day, rfl, n⟩
    | hour => exact ⟨q.hour, rfl, h⟩
    | minute => exact ⟨q.minute, rfl, mi⟩
    | second => exact ⟨q.second, rfl, s mem⟩

theorem units_ofKind {kind : Kind} {seconds : Bool} {unit : Unit}
    (mem : unit ∈ kind.unitsWith seconds) :
    if unit.isOfDate then kind.hasDate else kind.hasClock := by
  cases kind <;> cases seconds <;> cases unit <;> revert mem <;> decide

theorem shape_holds {kind : Kind} {d : Date} {t : Clock} {v : Value} (shape : kind.Shape d t v)
    (seconds : Bool) : kind.Holds d t (kind.unitsWith seconds) v := by
  refine holds_of_halves (fun has => dateParts_shape (shape.date has)) (fun has => ?_)
    fun unit mem => units_ofKind mem
  obtain ⟨p, parts, h, m, s⟩ := clockParts_shape (shape.clock has)
  exact ⟨p, parts, h, m, fun _ => s⟩

/-- The select of a unit with the component selected. -/
def Setting.selectOf (s : Setting) (d : Date) (t : Clock) (previous : Option Unit)
    (unit : Unit) : Select where
  unit := unit
  id := s.id ++ "_" ++ unit.name
  name := s.name ++ "[" ++ unit.name ++ "]"
  choices := (defaultChoices s.today s.yearSpan unit).map fun c =>
    ⟨c.1, c.2, c.2 == toString (component d t unit)⟩
  separator := separator previous unit

/-- The selects of some units, after a unit. -/
def Setting.editing (s : Setting) (d : Date) (t : Clock) :
    Option Unit → List Unit → List Select
  | _, [] => []
  | previous, unit :: rest => s.selectOf d t previous unit :: s.editing d t (some unit) rest

/-- The options of a control give no choices for a unit. -/
def leavesChoices (options : List (Value × Value)) (unit : Unit) : Bool :=
  match Value.named? options unit.name with
  | some (.table own) => (Value.named? own "options").isNone
  | _ => true

theorem unitChoices_default {options : List (Value × Value)} {unit : Unit}
    (left : leavesChoices options unit = true) (today : Date) (span : Int) :
    unitChoices options today span unit = .ok (defaultChoices today span unit) := by
  unfold leavesChoices at left
  unfold unitChoices
  split
  · rename_i own given
    rw [given] at left
    rw [Option.isNone_iff_eq_none.mp left]
  · rfl

/-! ## The values of choices -/

/-- The first number that the choices of a unit stand for. -/
def firstValue (today : Date) (span : Int) : Unit → Int
  | .year => (today.year : Int) - span
  | .month | .day => 1
  | .hour | .minute | .second => 0

/-- How many choices a unit has. -/
def valueCount (span : Int) : Unit → Nat
  | .year => (2 * span + 1).toNat
  | .month => 12
  | .day => 31
  | .hour => 24
  | .minute | .second => 60

/-- The choices of a unit are consecutive numbers. -/
theorem defaultChoices_values (today : Date) (span : Int) (unit : Unit) :
    (defaultChoices today span unit).map (·.2) =
      (List.range (valueCount span unit)).map fun (i : Nat) =>
        toString (firstValue today span unit + i) := by
  have twoDigit (first last : Nat) : (twoDigitChoices first last).map (·.2) =
      (List.range (last + 1 - first)).map fun (i : Nat) => toString ((first : Int) + i) := by
    rw [twoDigitChoices, List.map_map]
    rfl
  cases unit with
  | year =>
    rw [defaultChoices, yearChoices, List.map_map]
    rfl
  | month => rfl
  | day => exact twoDigit 1 31
  | hour => exact twoDigit 0 23
  | minute => exact twoDigit 0 59
  | second => exact twoDigit 0 59

theorem normalizedText_choice {today : Date} {span : Int} {unit : Unit} {c : String × String}
    (mem : c ∈ defaultChoices today span unit) : normalizedText c.2 = c.2 := by
  have value := List.mem_map_of_mem (f := fun c : String × String => c.2) mem
  rw [defaultChoices_values] at value
  obtain ⟨i, -, eq⟩ := List.mem_map.mp value
  rw [← eq, normalizedText_numeral]

/-- A value that has the components is edited by the selects of these. -/
theorem selectsAfter_holds {s : Setting} {d : Date} {t : Clock} {parts : List (Unit × Value)}
    (small : ∀ unit, component d t unit ≤ 9999) : ∀ (units : List Unit) (previous : Option Unit),
    (∀ unit ∈ units, leavesChoices s.options unit = true) →
    (∀ unit ∈ units, ∃ w, parts.lookup unit = some w ∧ Stands w (component d t unit)) →
    s.selectsAfter parts previous units = .ok (s.editing d t previous units)
  | [], _, _, _ => rfl
  | unit :: rest, previous, left, holds => by
    obtain ⟨w, found, stands⟩ := holds unit List.mem_cons_self
    have choices := unitChoices_default (left unit List.mem_cons_self) s.today s.yearSpan
    have compared : ∀ c ∈ defaultChoices s.today s.yearSpan unit,
        (⟨c.1, c.2, normalizedText c.2 == toString (component d t unit)⟩ : Choice) =
          ⟨c.1, c.2, c.2 == toString (component d t unit)⟩ := by
      intro c mem
      rw [normalizedText_choice mem]
    have first : s.select parts previous unit = .ok (s.selectOf d t previous unit) := by
      simp only [Setting.select, choices, found, Option.getD_some, ok_bind,
        normalized_stands stands (small unit), List.map_congr_left compared]
      rfl
    have others := selectsAfter_holds small rest (some unit)
      (fun u mem => left u (List.mem_cons_of_mem unit mem))
      fun u mem => holds u (List.mem_cons_of_mem unit mem)
    rw [Setting.selectsAfter, first, ok_bind, others]
    rfl

theorem selects_holds {kind : Kind} {s : Setting} {d : Date} {t : Clock} {v : Value}
    (small : ∀ unit, component d t unit ≤ 9999)
    (left : ∀ unit ∈ kind.units s.options, leavesChoices s.options unit = true)
    (holds : kind.Holds d t (kind.units s.options) v) :
    kind.selects v s = .ok (s.editing d t none (kind.units s.options)) := by
  obtain ⟨parts, found, each⟩ := holds
  rw [Kind.selects, found, ok_bind]
  exact selectsAfter_holds small (kind.units s.options) none left each

/-! ## What is selected -/

/-- The values that are selected. -/
def Select.chosen (c : Select) : List String := (c.choices.filter (·.selected)).map (·.value)

/-- Of consecutive numerals one is that of a number among them. -/
theorem consecutive_filter {first : Int} {count : Nat} {n : Int} (low : first ≤ n)
    (high : n < first + count) :
    ((List.range count).map fun (i : Nat) => toString (first + i)).filter (· == toString n) =
      [toString n] := by
  obtain ⟨k, rfl⟩ : ∃ k : Nat, n = first + k := ⟨(n - first).toNat, by omega⟩
  have same (i : Nat) : (toString (first + i) == toString (first + k)) = (i == k) := by
    rw [Bool.eq_iff_iff, beq_iff_eq, beq_iff_eq]
    refine ⟨fun eq => ?_, fun eq => by rw [eq]⟩
    have number := Text.intNumeral_injective eq
    omega
  have mem : k ∈ List.range count := List.mem_range.mpr (by omega)
  rw [List.filter_map]
  simp only [Function.comp_def, same]
  rw [List.filter_beq, List.count_eq_one_of_mem List.nodup_range mem]
  rfl

/-- The component is among the default choices of its unit. -/
def Setting.Reaches (s : Setting) (d : Date) (t : Clock) (unit : Unit) : Prop :=
  firstValue s.today s.yearSpan unit ≤ component d t unit ∧
    (component d t unit : Int) < firstValue s.today s.yearSpan unit + valueCount s.yearSpan unit

theorem chosen_selectOf {s : Setting} {d : Date} {t : Clock} {previous : Option Unit}
    {unit : Unit} (reaches : s.Reaches d t unit) :
    (s.selectOf d t previous unit).chosen = [toString (component d t unit)] := by
  have values : (s.selectOf d t previous unit).chosen =
      ((defaultChoices s.today s.yearSpan unit).map (·.2)).filter
        (· == toString (component d t unit)) := by
    rw [Select.chosen, Setting.selectOf, List.filter_map, List.map_map, List.filter_map]
    rfl
  rw [values, defaultChoices_values]
  exact consecutive_filter reaches.1 reaches.2

/-- The components of a date and a time of day that exist. -/
theorem component_bounds {d : Date} {t : Clock} (date : d.isValid = true)
    (clock : t.isValid = true) :
    d.year ≤ 9999 ∧ (1 ≤ d.month ∧ d.month ≤ 12) ∧ (1 ≤ d.day ∧ d.day ≤ 31) ∧
      t.hour < 24 ∧ t.minute < 60 ∧ t.second < 60 := by
  simp only [Date.isValid, Date.hasMonthAndDay, Bool.and_eq_true, decide_eq_true_eq] at date
  simp only [Clock.isValid, Bool.and_eq_true, decide_eq_true_eq] at clock
  have length : Date.daysInMonth d.year d.month ≤ 31 := by
    unfold Date.daysInMonth
    split
    · split <;> omega
    · split <;> omega
  omega

theorem component_small {d : Date} {t : Clock} (date : d.isValid = true)
    (clock : t.isValid = true) (unit : Unit) : component d t unit ≤ 9999 := by
  have bounds := component_bounds date clock
  cases unit <;> simp only [component] <;> omega

/-- Components that exist are among the choices, if the year is. -/
theorem reaches_valid {s : Setting} {d : Date} {t : Clock} {unit : Unit}
    (date : d.isValid = true) (clock : t.isValid = true)
    (inSpan : unit = .year → (s.today.year : Int) - s.yearSpan ≤ d.year ∧
      (d.year : Int) ≤ s.today.year + s.yearSpan) : s.Reaches d t unit := by
  have bounds := component_bounds date clock
  cases unit with
  | year =>
    obtain ⟨low, high⟩ := inSpan rfl
    simp only [Setting.Reaches, component, firstValue, valueCount]
    omega
  | _ =>
    simp only [Setting.Reaches, component, firstValue, valueCount]
    omega

theorem chosen_editing {s : Setting} {d : Date} {t : Clock} :
    ∀ (units : List Unit) (previous : Option Unit), (∀ unit ∈ units, s.Reaches d t unit) →
      ∀ c ∈ s.editing d t previous units, c.chosen = [toString (component d t c.unit)]
  | unit :: rest, previous, reaches, c, mem => by
    rcases List.mem_cons.mp mem with rfl | mem
    · exact chosen_selectOf (reaches unit List.mem_cons_self)
    · exact chosen_editing rest (some unit)
        (fun u hu => reaches u (List.mem_cons_of_mem unit hu)) c mem

/-! ## Editing what was selected -/

/-- What is selected, as a table with the values under the names of the units. -/
def chosenTable (selects : List Select) : Value :=
  .table (Value.entriesOfNamed
    (selects.flatMap fun c => c.chosen.map fun value => (c.unit.name, .text value)))

theorem chosenTable_editing {s : Setting} {d : Date} {t : Clock} (units : List Unit)
    (reaches : ∀ unit ∈ units, s.Reaches d t unit) :
    chosenTable (s.editing d t none units) = .table (Value.entriesOfNamed
      (units.map fun unit => (unit.name, .text (toString (component d t unit))))) := by
  have named : ∀ (units : List Unit) (previous : Option Unit),
      (∀ unit ∈ units, s.Reaches d t unit) →
      ((s.editing d t previous units).flatMap fun c =>
        c.chosen.map fun value => (c.unit.name, Value.text value)) =
      units.map fun unit => (unit.name, .text (toString (component d t unit))) := by
    intro units
    induction units with
    | nil => intro _ _; rfl
    | cons unit rest ih =>
      intro previous reaches
      rw [Setting.editing, List.flatMap_cons, chosen_selectOf (reaches unit List.mem_cons_self),
        ih (some unit) fun u hu => reaches u (List.mem_cons_of_mem unit hu)]
      rfl
  rw [chosenTable, named units none reaches]

theorem stands_numeral {n : Nat} (small : n ≤ 9999) : Stands (.text (toString n)) n := by
  have plain : Text.zeroPadded 0 n = toString n :=
    String.toList_inj.mp (by rw [Text.toList_zeroPadded]; rfl)
  have short : (toString n).length ≤ 4 := by
    rw [← String.length_toList, Text.toList_numeral]
    exact (Nat.length_toDigits_le_iff (by decide) (by decide)).mpr (Nat.lt_succ_of_le small)
  have stands : Stands (.text (Text.zeroPadded 0 n)) n :=
    .text 0 n (by rw [plain]; exact Nat.le_trans short (by decide))
  rwa [plain] at stands

theorem chosenTable_holds {kind : Kind} {s : Setting} {d : Date} {t : Clock} (seconds : Bool)
    (small : ∀ unit, component d t unit ≤ 9999)
    (reaches : ∀ unit ∈ kind.unitsWith seconds, s.Reaches d t unit) :
    kind.Holds d t (kind.unitsWith seconds)
      (chosenTable (s.editing d t none (kind.unitsWith seconds))) := by
  rw [chosenTable_editing (kind.unitsWith seconds) reaches]
  refine holds_of_halves (fun has => ?_) (fun has => ?_) fun unit mem => units_ofKind mem
  · refine dateParts_shape (.table ?_ ?_ ?_ (stands_numeral (small .year))
      (stands_numeral (small .month)) (stands_numeral (small .day)))
    all_goals
      rw [Value.named?_entriesOfNamed]
      cases kind <;> cases seconds <;> first | rfl | cases has
  · refine ⟨⟨.text (toString t.hour), .text (toString t.minute),
      if seconds then .text (toString t.second) else .int 0⟩, ?_,
      stands_numeral (small .hour), stands_numeral (small .minute), ?_⟩
    · cases kind <;> cases seconds <;> first | rfl | cases has
    · intro mem
      cases seconds with
      | true => exact stands_numeral (small .second)
      | false => exact absurd mem (by cases kind <;> decide)

/-- **A round trip.** A date, a time of day or both that exist, the year being among the choices,
are edited by the same selects in whatever shape they are stored. Each select has one choice
selected, the numeral of the component; and what is selected, put under the names of the units, is
edited by the same selects again. -/
theorem selects_roundTrip (kind : Kind) (s : Setting) (d : Date) (t : Clock) (v : Value)
    (date : d.isValid = true) (clock : t.isValid = true)
    (inSpan : kind.hasDate = true → (s.today.year : Int) - s.yearSpan ≤ d.year ∧
      (d.year : Int) ≤ s.today.year + s.yearSpan)
    (left : ∀ unit ∈ kind.units s.options, leavesChoices s.options unit = true)
    (shape : kind.Shape d t v) :
    kind.selects v s = .ok (s.editing d t none (kind.units s.options)) ∧
    (∀ c ∈ s.editing d t none (kind.units s.options),
      c.chosen = [toString (component d t c.unit)]) ∧
    kind.selects (chosenTable (s.editing d t none (kind.units s.options))) s =
      .ok (s.editing d t none (kind.units s.options)) := by
  have small := component_small date clock
  have reaches : ∀ unit ∈ kind.units s.options, s.Reaches d t unit := by
    intro unit mem
    refine reaches_valid date clock fun isYear => inSpan ?_
    have ofKind := units_ofKind mem
    rw [isYear] at ofKind
    exact ofKind
  refine ⟨selects_holds small left (shape_holds shape _), chosen_editing _ none reaches, ?_⟩
  exact selects_holds small left (chosenTable_holds _ small reaches)

/-- The last of June in 2024, as a control edits it that asks for seconds. -/
def juneSetting : Setting := ⟨"born", "contact[born]", [(.text "sec", .table [])], ⟨2024, 6, 15⟩, 5⟩

theorem selects_roundTrip_june :
    let v : Value := .tuple [.tuple [.int 2024, .text "06", .int 30],
      .tuple [.int 9, .int 5, .text "00", .int 250]]
    let edited := juneSetting.editing ⟨2024, 6, 30⟩ ⟨9, 5, 0, 0, none⟩ none
      (Kind.datetime.units juneSetting.options)
    Date.isValid ⟨2024, 6, 30⟩ = true ∧ Clock.isValid ⟨9, 5, 0, 0, none⟩ = true ∧
    Kind.datetime.Shape ⟨2024, 6, 30⟩ ⟨9, 5, 0, 0, none⟩ v ∧
    Kind.datetime.selects v juneSetting = .ok edited ∧
    Kind.datetime.selects (chosenTable edited) juneSetting = .ok edited := by
  intro v edited
  have six : Stands (.text "06") 6 := .text 1 6 (by decide)
  have zero : Stands (.text "00") 0 := .text 1 0 (by decide)
  have shape : Kind.datetime.Shape ⟨2024, 6, 30⟩ ⟨9, 5, 0, 0, none⟩ v := by
    constructor
    · exact fun _ => .pair _ (.int 2024) six (.int 30)
    · exact fun _ => .pair _ (.micros 250 (.int 9) (.int 5) zero)
  obtain ⟨drawn, -, again⟩ := selects_roundTrip .datetime juneSetting _ _ v
    (by decide) (by decide) (by decide) (by decide) shape
  exact ⟨by decide, by decide, shape, drawn, again⟩

/-! ## Numerals that are too long -/

theorem normalized_unread {s : String} (unread : Text.readWhole s = none) :
    normalized (.text s) = .ok s := by
  simp only [normalized, Value.isNone, whole?, unread, Bool.false_eq_true, if_false, ok_bind,
    pure_eq, Option.bind_eq_bind, Option.bind_none, Option.getD_none]
  rfl

/-- A date control without options in the middle of 2024. -/
def yearSetting : Setting := ⟨"i", "n", [], ⟨2024, 6, 15⟩, 5⟩

/-- A first of January with its year as a text. -/
def januaryOf (year : String) : Value :=
  .table (Value.entriesOfNamed [("year", .text year), ("month", .text "1"), ("day", .text "1")])

/-- The select of a year that is compared as a text. -/
def yearSelect (year : String) : Select where
  unit := .year
  id := "i_year"
  name := "n[year]"
  choices := (defaultChoices ⟨2024, 6, 15⟩ 5 .year).map fun c =>
    ⟨c.1, c.2, normalizedText c.2 == year⟩
  separator := none

/-- A long text is the year of no choice. -/
theorem yearSelect_chosen {year : String} (long : 4 < year.length) :
    (yearSelect year).chosen = [] := by
  have short : ∀ c ∈ defaultChoices ⟨2024, 6, 15⟩ 5 .year, c.2.length = 4 := by decide
  have other : ∀ c ∈ defaultChoices ⟨2024, 6, 15⟩ 5 .year,
      (normalizedText c.2 == year) = false := by
    intro c mem
    rw [normalizedText_choice mem, beq_eq_false_iff_ne]
    rintro rfl
    exact absurd (short c mem) (Nat.ne_of_gt long)
  rw [Select.chosen, List.map_eq_nil_iff, List.filter_eq_nil_iff]
  intro choice mem
  obtain ⟨c, given, rfl⟩ := List.mem_map.mp mem
  simp [other c given]

theorem unread_year_selects {year : String} (unread : Text.readWhole year = none) :
    ∃ rest, Kind.date.selects (januaryOf year) yearSetting = .ok (yearSelect year :: rest) := by
  have current : normalized (((DateParts.entries ⟨.text year, .text "1", .text "1"⟩).lookup
      .year).getD .none) = .ok year := normalized_unread unread
  have first : yearSetting.select (DateParts.entries ⟨.text year, .text "1", .text "1"⟩)
      none .year = .ok (yearSelect year) := by
    rw [Setting.select, unitChoices_default rfl, current]
    rfl
  have others : yearSetting.selectsAfter (DateParts.entries ⟨.text year, .text "1", .text "1"⟩)
      (some .year) [.month, .day] =
        .ok (yearSetting.editing ⟨2024, 1, 1⟩ .midnight (some .year) [.month, .day]) := by
    refine selectsAfter_holds (component_small (by decide) (by decide)) _ _ (by decide) ?_
    intro unit mem
    have one : Stands (.text "1") 1 := .text 0 1 (by decide)
    cases unit with
    | month => exact ⟨_, rfl, one⟩
    | day => exact ⟨_, rfl, one⟩
    | _ => exact absurd mem (by decide)
  have selects : Kind.date.selects (januaryOf year) yearSetting = yearSetting.selectsAfter
      (DateParts.entries ⟨.text year, .text "1", .text "1"⟩) none [.year, .month, .day] := rfl
  rw [selects, Setting.selectsAfter, first, ok_bind, others]
  exact ⟨_, rfl⟩

/-- **A numeral of more digits than are read** stands for no year: none is selected, although the
year it is the numeral of is among the choices. -/
theorem long_year_lost : ∃ rest,
    Kind.date.selects (januaryOf (Text.zeroPadded 4300 2024)) yearSetting =
      .ok (yearSelect (Text.zeroPadded 4300 2024) :: rest) ∧
    (yearSelect (Text.zeroPadded 4300 2024)).chosen = [] ∧
    ((yearSetting.editing ⟨2024, 1, 1⟩ .midnight none [.year, .month, .day]).head?.map
      Select.chosen) = some ["2024"] := by
  have length : (Text.zeroPadded 4300 2024).length = 4304 := by
    rw [← String.length_toList, Text.toList_zeroPadded, List.length_append, List.length_replicate]
    rfl
  have unread : Text.readWhole (Text.zeroPadded 4300 2024) = none := by
    rw [Text.readWhole_zeroPadded, length]
    rfl
  obtain ⟨rest, selects⟩ := unread_year_selects unread
  exact ⟨rest, selects, yearSelect_chosen (by omega), by decide⟩

end Formwright.Temporal
