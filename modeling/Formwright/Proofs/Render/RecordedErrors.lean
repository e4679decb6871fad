import Formwright.Errors
import Formwright.Proofs.Outcome
import Formwright.Render.Context
import Mathlib.Data.List.Flatten

/-!
# Recorded errors

The errors of a context are pairs of a key and an error. They may be given as a table instead, with
one error or a list of them under each key; the errors under a key are then those of its entries,
one after the other.

- `Errors.recorded`: the errors under a key.
- `Context.check_errors`, `Context.recorded_tabulated`: errors given as a table.
-/

namespace Formwright

open Outcome

/-- The errors recorded under a key; there are none when no errors are known at all. -/
def Errors.recorded (errors : Option (List (String × Value))) (key : String) : List Value :=
  (Errors.select errors key).getD []

/-! ## Errors given as a table -/

namespace Context

/-- The errors in an entry of a table: those of a list, or one. -/
def errorsIn : Value → List Value
  | .list errors => errors
  | error => [error]

/-- The errors of a table as pairs of a key and an error. -/
def tabulated (table : List (Value × Value)) : List (String × Value) :=
  table.flatMap fun e => (errorsIn e.2).map fun error => (e.1.toText, error)

theorem flatErrors_eq (table : List (Value × Value)) :
    flatErrors table = (tabulated table).map fun e => .tuple [.text e.1, e.2] := by
  unfold flatErrors tabulated
  rw [List.map_flatMap]
  congr 1
  funext e
  rw [List.map_map]
  rfl

/-- Under a key are the errors of its entries, one entry after the other. -/
theorem recorded_tabulated (table : List (Value × Value)) (key : String) :
    Errors.recorded (some (tabulated table)) key =
      (table.filter fun e => e.1.toText == key).flatMap fun e => errorsIn e.2 := by
  have cut : ∀ table, Errors.recorded (some (tabulated table)) key =
      ((tabulated table).filter (·.1 == key)).map (·.2) := fun _ => rfl
  induction table with
  | nil => rfl
  | cons e rest ih =>
    rw [cut] at ih ⊢
    rw [tabulated, List.flatMap_cons, List.filter_append, List.map_append, ← tabulated, ih,
      List.filter_map, List.filter_cons]
    by_cases own : (e.1.toText == key) = true
    · rw [if_pos own, List.flatMap_cons]
      congr 1
      simp [Function.comp_def, own]
    · rw [if_neg own]
      simp [Function.comp_def, own]

/-- The pairs of a table pass the check of errors as they are. -/
theorem pairs_checked (pairs : List (String × Value)) :
    Rule.tupleOf (Rule.pair Rule.text Rule.any)
      (.tuple (pairs.map fun e => .tuple [.text e.1, e.2])) = .good pairs := by
  have each : (pairs.map fun e => Value.tuple [.text e.1, e.2]).mapIdx (fun i v =>
      (Rule.pair Rule.text Rule.any v).under (toString i)) = pairs.map .good := by
    apply List.ext_getElem
    · simp
    · intro i _ _
      simp only [List.getElem_mapIdx, List.getElem_map]
      rfl
  change Checked.all _ = _
  rw [each, Checked.all_good]

theorem lookup_mapM {entries entries' : List (String × Value)}
    (h : (entries.mapM fun e =>
      if e.1 == "errors" then (errorPairs e.2).map fun v => (e.1, v) else .ok e) = .ok entries')
    {v : Value} (given : entries.lookup "errors" = some v) :
    ∃ v', errorPairs v = .ok v' ∧ entries'.lookup "errors" = some v' := by
  induction entries generalizing entries' with
  | nil => cases given
  | cons e rest ih =>
    obtain ⟨name, w⟩ := e
    rw [List.mapM_cons] at h
    obtain ⟨first, converted, h⟩ := bind_eq_ok.mp h
    obtain ⟨others, convertedRest, h⟩ := bind_eq_ok.mp h
    cases h
    by_cases own : name = "errors"
    · subst own
      rw [List.lookup_cons_self] at given
      cases given
      obtain ⟨v', pairs, rfl⟩ := exceptMap_eq_ok.mp converted
      exact ⟨v', pairs, List.lookup_cons_self⟩
    · rw [if_neg (by simpa using own)] at converted
      cases converted
      rw [List.lookup_cons, show ("errors" == name) = false by simpa using Ne.symm own] at given ⊢
      exact ih convertedRest given

/-- Errors given as a table are recorded one by one under its keys, in order. -/
theorem check_errors {entries : List (String × Value)} {today : Date} {c : Context}
    (h : Context.check entries today = .ok c) {table : List (Value × Value)}
    (given : entries.lookup "errors" = some (.table table)) :
    c.errors = some (tabulated table) := by
  obtain ⟨entries', converted, h⟩ := bind_eq_ok.mp h
  obtain ⟨v, pairs, found⟩ := lookup_mapM converted given
  cases pairs
  have good : checkFields entries' today = .good c := by
    cases checked : checkFields entries' today with
    | good c' =>
      rw [checked] at h
      cases h
      rfl
    | bad issues =>
      rw [checked] at h
      cases h
  simp only [checkFields, Checked.seq_eq_good, Checked.map_eq_good] at good
  obtain ⟨_, _, ⟨_, _, ⟨_, _, ⟨_, _, ⟨_, errors, ⟨_, _, ⟨_, _, ⟨_, -, rfl⟩, -, rfl⟩, -, rfl⟩,
    recorded, rfl⟩, -, rfl⟩, -, rfl⟩, -, rfl⟩, -, rfl⟩ := good
  rw [Rule.withDefault, found, flatErrors_eq] at recorded
  change ((Rule.tupleOf (Rule.pair Rule.text Rule.any) _).map some).under "errors" = _ at recorded
  rw [pairs_checked] at recorded
  cases recorded
  rfl

end Context

end Formwright
