import Mathlib.Data.List.Induction
import Mathlib.Data.List.Nodup
import Formwright.Proofs.Value.Named

/-!
# Values in effect

A table that is made of named values has its names in the order in which they are first given, each
with the value that is given last. This is the whole of the table and not only what is found in it.

- `inEffect`: the named values of which a table consists.
- `tableOf_entriesOfNamed`: a table made of named values.
- `inEffect_nodup`: no name is in it twice.
-/

namespace Formwright.Value

/-- The value that is given last under a name. -/
def lastGiven (values : List (String × Value)) (name : String) : Value :=
  (values.reverse.lookup name).getD .none

/-- Under a name that is given a value is given last. -/
theorem lookup_lastGiven {values : List (String × Value)} {name : String}
    (known : name ∈ values.map (·.1)) :
    values.reverse.lookup name = some (lastGiven values name) := by
  unfold lastGiven
  cases found : values.reverse.lookup name with
  | some v => rfl
  | none =>
    obtain ⟨e, mem, rfl⟩ := List.mem_map.mp known
    have other := List.lookup_eq_none_iff.mp found e (List.mem_reverse.mpr mem)
    exact absurd rfl (bne_iff_ne.mp other)

theorem lastGiven_mem {values : List (String × Value)} {name : String}
    (known : name ∈ values.map (·.1)) : (name, lastGiven values name) ∈ values := by
  obtain ⟨before, after, split, -⟩ := List.lookup_eq_some_iff.mp (lookup_lastGiven known)
  refine List.mem_reverse.mp ?_
  rw [split]
  simp

/-- Every name where it is first given, with the value that is given last. -/
def inEffect (values : List (String × Value)) : List (String × Value) :=
  (values.map (·.1)).eraseDups.map fun name => (name, lastGiven values name)

theorem mem_of_mem_inEffect {values : List (String × Value)} {e : String × Value}
    (mem : e ∈ inEffect values) : e ∈ values := by
  obtain ⟨name, known, rfl⟩ := List.mem_map.mp mem
  exact lastGiven_mem (List.mem_eraseDups.mp known)

/-- Erasing repetitions with one more name at the end. -/
theorem eraseDups_concat (names : List String) (name : String) :
    (names ++ [name]).eraseDups =
      names.eraseDups ++ if name ∈ names then [] else [name] := by
  rw [List.eraseDups_append]
  by_cases mem : name ∈ names
  · simp [List.removeAll, mem]
  · simp [List.removeAll, mem, List.eraseDups_cons]

theorem eraseDups_nodup (names : List String) : names.eraseDups.Nodup := by
  induction names using List.reverseRecOn with
  | nil => exact List.nodup_nil
  | append_singleton names name ih =>
    rw [eraseDups_concat]
    by_cases mem : name ∈ names
    · rwa [if_pos mem, List.append_nil]
    · rw [if_neg mem, List.nodup_append]
      refine ⟨ih, List.nodup_singleton name, ?_⟩
      intro other otherMem last lastMem
      rw [List.mem_singleton.mp lastMem]
      rintro rfl
      exact mem (List.mem_eraseDups.mp otherMem)

theorem inEffect_nodup (values : List (String × Value)) : ((inEffect values).map (·.1)).Nodup := by
  have names : (inEffect values).map (·.1) = (values.map (·.1)).eraseDups := by
    simp [inEffect, Function.comp_def]
  rw [names]
  exact eraseDups_nodup _

theorem put_new {key : String} {v : Value} {values : List (String × Value)}
    (fresh : key ∉ values.map (·.1)) :
    put (.text key) v (entriesOfNamed values) = entriesOfNamed (values ++ [(key, v)]) := by
  induction values with
  | nil => rfl
  | cons e rest ih =>
    obtain ⟨name, w⟩ := e
    rw [List.map_cons, List.mem_cons, not_or] at fresh
    change put (.text key) v ((.text name, w) :: entriesOfNamed rest) = _
    rw [put, same_text, beq_eq_false_iff_ne.mpr (Ne.symm fresh.1), ih fresh.2]
    rfl

/-- A name that is there keeps its place. -/
theorem put_old {key : String} {v : Value} {names : List String} (nodup : names.Nodup)
    (mem : key ∈ names) (given : String → Value) :
    put (.text key) v (entriesOfNamed (names.map fun name => (name, given name))) =
      entriesOfNamed (names.map fun name => (name, if name = key then v else given name)) := by
  induction names with
  | nil => cases mem
  | cons first rest ih =>
    obtain ⟨once, nodup⟩ := List.nodup_cons.mp nodup
    change put (.text key) v ((.text first, given first) :: entriesOfNamed _) = _
    rw [put, same_text]
    by_cases here : first = key
    · subst here
      have others : (rest.map fun name => (name, given name)) =
          rest.map fun name => (name, if name = first then v else given name) := by
        refine List.map_congr_left fun name nameMem => ?_
        have other : name ≠ first := by
          rintro rfl
          exact once nameMem
        rw [if_neg other]
      rw [beq_self_eq_true, if_pos rfl, others]
      simp [entriesOfNamed]
    · have later : key ∈ rest := (List.mem_cons.mp mem).resolve_left (Ne.symm here)
      rw [beq_eq_false_iff_ne.mpr here, ih nodup later]
      simp [entriesOfNamed, here]

theorem lastGiven_concat (values : List (String × Value)) (key : String) (v : Value)
    (name : String) : lastGiven (values ++ [(key, v)]) name =
      if name = key then v else lastGiven values name := by
  unfold lastGiven
  rw [List.reverse_append, List.reverse_singleton, List.singleton_append, List.lookup_cons]
  by_cases here : name = key
  · simp [here]
  · simp [here, beq_eq_false_iff_ne.mpr here]

/-- **A table in full.** A table made of named values has those in effect. -/
theorem tableOf_entriesOfNamed (values : List (String × Value)) :
    tableOf (entriesOfNamed values) = entriesOfNamed (inEffect values) := by
  induction values using List.reverseRecOn with
  | nil => rfl
  | append_singleton values e ih =>
    obtain ⟨key, v⟩ := e
    have last : tableOf (entriesOfNamed (values ++ [(key, v)])) =
        put (.text key) v (tableOf (entriesOfNamed values)) := by
      simp [tableOf, entriesOfNamed, List.foldl_append]
    have given : ∀ names : List String,
        (names.map fun name => (name, lastGiven (values ++ [(key, v)]) name)) =
          names.map fun name => (name, if name = key then v else lastGiven values name) :=
      fun names => List.map_congr_left fun name _ => by rw [lastGiven_concat]
    rw [last, ih, inEffect, inEffect, List.map_append, List.map_singleton, eraseDups_concat, given]
    by_cases mem : key ∈ values.map (·.1)
    · rw [if_pos mem, List.append_nil]
      exact put_old (eraseDups_nodup _) (List.mem_eraseDups.mpr mem) _
    · have names : key ∉ ((values.map (·.1)).eraseDups.map fun name =>
          (name, lastGiven values name)).map (·.1) := by
        simpa [Function.comp_def, List.mem_eraseDups] using mem
      have others : ((values.map (·.1)).eraseDups.map fun name =>
          (name, if name = key then v else lastGiven values name)) =
            (values.map (·.1)).eraseDups.map fun name => (name, lastGiven values name) := by
        refine List.map_congr_left fun name nameMem => ?_
        have other : name ≠ key := by
          rintro rfl
          exact mem (List.mem_eraseDups.mp nameMem)
        rw [if_neg other]
      rw [if_neg mem, put_new names, List.map_append, others, List.map_singleton, if_pos rfl]

end Formwright.Value
