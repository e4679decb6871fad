import Formwright.Value.Entries

/-!
# Entries under texts

Tables are looked into by text nearly everywhere. Here is what is found under a text after values
were put into a table whose keys are texts: of entries that share a key the last one counts.
-/

namespace Formwright.Value

/-- Named values as entries of a table. -/
def entriesOfNamed (values : List (String × Value)) : List (Value × Value) :=
  values.map fun e => (.text e.1, e.2)

@[simp] theorem isText_text (name s : String) : isText name (.text s) = (s == name) := by
  simp [isText, string?]

@[simp] theorem same_text (s t : String) : same (.text s) (.text t) = (s == t) := by
  simp [same, equal?, equalAtoms?, isNumber, sameAtom, quantity?, infinite?, string?]

@[simp] theorem same_text_int (s : String) (n : Int) : same (.text s) (.int n) = false := by
  simp [same, equal?, equalAtoms?, isNumber, sameAtom, quantity?, infinite?, string?]

theorem named?_cons (e : Value × Value) (rest : List (Value × Value)) (name : String) :
    named? (e :: rest) name = if e.1.isText name then some e.2 else named? rest name := by
  unfold named?
  rw [List.find?_cons]
  cases e.1.isText name <;> rfl

theorem named?_entriesOfNamed (values : List (String × Value)) (name : String) :
    named? (entriesOfNamed values) name = values.lookup name := by
  induction values with
  | nil => rfl
  | cons e rest ih =>
    obtain ⟨key, v⟩ := e
    change named? ((.text key, v) :: entriesOfNamed rest) name = _
    rw [named?_cons, isText_text, ih, List.lookup_cons, BEq.comm]
    cases name == key <;> rfl

/-! ## Putting values into tables -/

/-- Putting a value under a text keeps keys that are texts. -/
theorem put_entriesOfNamed (key : String) (v : Value) (values : List (String × Value)) :
    ∃ values', put (.text key) v (entriesOfNamed values) = entriesOfNamed values' ∧
      ∀ name, values'.lookup name = if name = key then some v else values.lookup name := by
  induction values with
  | nil =>
    refine ⟨[(key, v)], rfl, fun name => ?_⟩
    rw [List.lookup_cons]
    by_cases h : name = key
    · simp [h]
    · simp [h, beq_eq_false_iff_ne.mpr h]
  | cons e rest ih =>
    obtain ⟨key', v'⟩ := e
    obtain ⟨rest', putRest, looked⟩ := ih
    change ∃ values', put (.text key) v ((.text key', v') :: entriesOfNamed rest) = _ ∧ _
    unfold put
    rw [same_text]
    by_cases h : key' = key
    · subst h
      refine ⟨(key', v) :: rest, by simp [entriesOfNamed], fun name => ?_⟩
      by_cases h' : name = key'
      · simp [h']
      · simp [List.lookup_cons, h', beq_eq_false_iff_ne.mpr h']
    · refine ⟨(key', v') :: rest', ?_, fun name => ?_⟩
      · rw [beq_eq_false_iff_ne.mpr h, putRest]
        rfl
      · by_cases h' : name = key'
        · subst h'
          simp [h]
        · simp [List.lookup_cons, beq_eq_false_iff_ne.mpr h', looked]

theorem key_of_mem_put {key v : Value} {entries : List (Value × Value)} {e : Value × Value}
    (h : e ∈ put key v entries) : e.1 = key ∨ ∃ e' ∈ entries, e'.1 = e.1 := by
  induction entries with
  | nil =>
    rw [List.mem_singleton.mp h]
    exact Or.inl rfl
  | cons first rest ih =>
    unfold put at h
    split at h
    · rcases List.mem_cons.mp h with rfl | mem
      · exact Or.inr ⟨first, List.mem_cons_self, rfl⟩
      · exact Or.inr ⟨e, List.mem_cons_of_mem _ mem, rfl⟩
    · rcases List.mem_cons.mp h with rfl | mem
      · exact Or.inr ⟨e, List.mem_cons_self, rfl⟩
      · rcases ih mem with eq | ⟨e', mem', eq⟩
        · exact Or.inl eq
        · exact Or.inr ⟨e', List.mem_cons_of_mem _ mem', eq⟩

/-- A table made of entries has no keys but theirs. -/
theorem key_of_mem_tableOf {entries : List (Value × Value)} {e : Value × Value}
    (h : e ∈ tableOf entries) : ∃ e' ∈ entries, e'.1 = e.1 := by
  suffices folded : ∀ before : List (Value × Value),
      e ∈ entries.foldl (fun table e => put e.1 e.2 table) before →
        ∃ e' ∈ before ++ entries, e'.1 = e.1 from folded [] h
  clear h
  induction entries with
  | nil =>
    intro before h
    exact ⟨e, List.mem_append_left _ h, rfl⟩
  | cons first rest ih =>
    intro before h
    obtain ⟨e', mem, eq⟩ := ih (put first.1 first.2 before) h
    rcases List.mem_append.mp mem with mem | mem
    · rcases key_of_mem_put mem with same | ⟨old, old_mem, same⟩
      · exact ⟨first, by simp, same.symm.trans eq⟩
      · exact ⟨old, List.mem_append_left _ old_mem, same.trans eq⟩
    · exact ⟨e', by simp [mem], eq⟩

/-- In a table made of named values the last one of a name counts. -/
theorem named?_tableOf (values : List (String × Value)) (name : String) :
    named? (tableOf (entriesOfNamed values)) name = values.reverse.lookup name := by
  suffices folded : ∀ before : List (String × Value),
      named? ((entriesOfNamed values).foldl (fun table e => put e.1 e.2 table)
        (entriesOfNamed before)) name = (values.reverse.lookup name).or (before.lookup name) by
    have atOnce := folded []
    rwa [List.lookup_nil, Option.or_none] at atOnce
  induction values with
  | nil => intro before; simpa [entriesOfNamed] using named?_entriesOfNamed before name
  | cons e rest ih =>
    intro before
    obtain ⟨key, v⟩ := e
    obtain ⟨after, put, looked⟩ := put_entriesOfNamed key v before
    change named? ((entriesOfNamed rest).foldl _ (Value.put (.text key) v _)) name = _
    rw [put, ih after, looked, List.reverse_cons, List.lookup_append, Option.or_assoc]
    by_cases h : name = key
    · simp [h]
    · simp [h, List.lookup_cons, beq_eq_false_iff_ne.mpr h]

end Formwright.Value
