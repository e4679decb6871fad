import Formwright.Proofs.Outcome
import Formwright.Proofs.Value.Leaves
import Formwright.Toml.Document

/-!
# Documents hold data

Whatever is read from a document is data: no value in it is worked out when a form is rendered.

- `value_data`: a value.
- `parse_data`: a whole document.
-/

namespace Formwright.Toml

open Outcome Value

/-! ## Tables -/

/-- The entries are those of a table of data. -/
abbrev AreData (entries : Entries) : Prop := (Value.table entries).isData = true

theorem areData_nil : AreData [] := rfl

theorem areData_snoc {entries : Entries} (data : AreData entries) (name : String) {v : Value}
    (isData : v.isData = true) : AreData (entries ++ [(.text name, v)]) := by
  rw [AreData, isData_table] at data ⊢
  intro e mem
  rcases List.mem_append.mp mem with mem | last
  · exact data e mem
  · rw [List.mem_singleton.mp last]
    exact ⟨rfl, isData⟩

theorem replaceNamed_data {entries : Entries} (data : AreData entries) (name : String) {v : Value}
    (isData : v.isData = true) : AreData (replaceNamed name v entries) := by
  rw [AreData, isData_table] at data ⊢
  induction entries with
  | nil =>
    intro e mem
    cases mem
  | cons first rest ih =>
    have others := ih fun e mem => data e (List.mem_cons_of_mem _ mem)
    intro e mem
    unfold replaceNamed at mem
    split at mem
    · rcases List.mem_cons.mp mem with rfl | mem
      · exact ⟨(data first List.mem_cons_self).1, isData⟩
      · exact data e (List.mem_cons_of_mem _ mem)
    · rcases List.mem_cons.mp mem with rfl | mem
      · exact data _ List.mem_cons_self
      · exact others e mem

/-- A change of a table of data gives a table of data. -/
def KeepsData (change : Entries → Except Flaw Entries) : Prop :=
  ∀ entries, AreData entries → Yields AreData (change entries)

theorem changeLast_data {change : Entries → Except Flaw Entries} (keeps : KeepsData change)
    {items : List Value} (data : (Value.list items).isData = true) :
    Yields (fun items => (Value.list items).isData = true) (changeLast change items) := by
  unfold changeLast
  split
  · rename_i entries last
    rw [isData_list] at data
    refine (keeps entries (data _ (List.mem_of_getLast? last))).bind fun changed isData => .ok ?_
    rw [isData_list]
    intro v mem
    rcases List.mem_append.mp mem with mem | mem
    · exact data v (List.dropLast_subset items mem)
    · rw [List.mem_singleton.mp mem]
      exact isData
  · exact .error _

theorem descend_data {throughLists : Bool} {change : Entries → Except Flaw Entries}
    (keeps : KeepsData change) (path : List String) :
    KeepsData (descend throughLists change path) := by
  induction path with
  | nil => exact keeps
  | cons name path ih =>
    intro entries data
    unfold descend
    split
    · exact (ih [] areData_nil).bind fun inner isData => .ok (areData_snoc data name isData)
    · rename_i inner found
      refine (ih inner (everyLeaf_named data found)).bind fun changed isData => .ok ?_
      exact replaceNamed_data data name isData
    · rename_i items found
      split
      · refine (changeLast_data ih (everyLeaf_named data found)).bind fun changed isData => .ok ?_
        exact replaceNamed_data data name isData
      · exact .error _
    · exact .error _

theorem addNew_data (name : String) {v : Value} (isData : v.isData = true) :
    KeepsData (addNew name v) := by
  intro entries data
  unfold addNew
  split
  · exact .error _
  · exact .ok (areData_snoc data name isData)

theorem InlineTable.insert_data {t : InlineTable} (data : AreData t.entries) (key : List String)
    {v : Value} (isData : v.isData = true) :
    Yields (fun t => AreData t.entries) (t.insert key v) := by
  have added : KeepsData (addNew (splitKey key).2 v) := addNew_data _ isData
  unfold InlineTable.insert
  dsimp only
  split
  · exact .error _
  · exact (descend_data added _ _ data).bind fun _ changed => .ok changed

/-! ## Values -/

/-- What is scanned is data. -/
def ScansData (x : Except Flaw (Value × List Char)) : Prop := Yields (fun r => r.1.isData = true) x

/-- One of two scanners has read what both together have. -/
theorem either_read {α : Type} {x y : Option α} {a : α} (read : (x <|> y) = some a) :
    x = some a ∨ y = some a := by
  cases x with
  | none => exact .inr read
  | some b => exact .inl read

theorem date?_data {cs : List Char} {x : Except Flaw (Value × List Char)}
    (read : date? cs = some x) : ScansData x := by
  obtain ⟨⟨date, rest⟩, -, read⟩ := Option.bind_eq_some_iff.mp read
  dsimp only at read
  split at read
  · cases read
    exact .error _
  · split at read
    · cases read
      exact .ok rfl
    · cases read
      exact .ok rfl

theorem time?_data {cs : List Char} {x : Except Flaw (Value × List Char)}
    (read : time? cs = some x) : ScansData x := by
  obtain ⟨r, -, rfl⟩ := Option.map_eq_some_iff.mp read
  exact .ok rfl

theorem based?_data {base : Nat} {isDigit : Char → Bool} {cs : List Char} {r : Value × List Char}
    (read : based? base isDigit cs = some r) : r.1.isData = true := by
  unfold based? at read
  dsimp only at read
  split at read
  · cases read
  · cases read
    rfl

theorem decimal?_data {cs : List Char} {x : Except Flaw (Value × List Char)}
    (read : decimal? cs = some x) : ScansData x := by
  obtain ⟨⟨whole, rest⟩, -, read⟩ := Option.bind_eq_some_iff.mp read
  dsimp only at read
  split at read
  · cases read
    exact .ok rfl
  · split at read
    · cases read
      exact .error _
    · cases read
      exact .ok rfl

theorem number?_data {cs : List Char} {x : Except Flaw (Value × List Char)}
    (read : number? cs = some x) : ScansData x := by
  rcases either_read read with marked | read
  · obtain ⟨r, based, rfl⟩ := Option.map_eq_some_iff.mp marked
    refine .ok ?_
    split at based
    · exact based?_data based
    · exact based?_data based
    · exact based?_data based
    · cases based
  · exact decimal?_data read

theorem special?_data {cs : List Char} {x : Except Flaw (Value × List Char)}
    (read : special? cs = some x) : ScansData x := by
  unfold special? at read
  dsimp only at read
  split at read
  · cases read
    exact .ok rfl
  · cases read
    exact .ok rfl
  · cases read

theorem scalar_data (cs : List Char) : ScansData (scalar cs) := by
  cases read : date? cs <|> time? cs <|> number? cs <|> special? cs with
  | none =>
    rw [scalar, read]
    exact .error _
  | some x =>
    rw [scalar, read]
    rcases either_read read with read | read
    · exact date?_data read
    rcases either_read read with read | read
    · exact time?_data read
    rcases either_read read with read | read
    · exact number?_data read
    · exact special?_data read

mutual

theorem value_data : ∀ (fuel : Nat) (cs : List Char), ScansData (value fuel cs)
  | 0, cs => by
    simp only [value]
    exact .error _
  | fuel + 1, cs => by
    have text : ∀ x : Except Flaw (String × List Char),
        ScansData (x.map fun r => (.text r.1, r.2)) := by
      intro x
      cases x with
      | error e => exact .error _
      | ok r => exact .ok rfl
    simp only [value]
    split
    · exact text _
    · exact text _
    · exact text _
    · exact text _
    · exact .ok rfl
    · exact .ok rfl
    · rename_i rest
      -- the members of an array
      refine .after fun cs => ?_
      exact (arrayItems_data fuel cs).bind fun r data => .ok data
    · split
      · exact .ok rfl
      · exact (tableItems_data fuel areData_nil _).bind fun r data => .ok data
    · exact scalar_data _

theorem arrayItems_data : ∀ (fuel : Nat) (cs : List Char),
    Yields (fun r => (Value.list r.1).isData = true) (arrayItems fuel cs)
  | 0, cs => by
    simp only [arrayItems]
    exact .error _
  | fuel + 1, cs => by
    simp only [arrayItems]
    split
    · exact .ok rfl
    · refine (value_data fuel _).bind fun r first => ?_
      refine .after fun cs => ?_
      split
      · refine .ok ?_
        rw [isData_list]
        intro v mem
        rw [List.mem_singleton.mp mem]
        exact first
      · refine .after fun cs => ?_
        refine (arrayItems_data fuel cs).bind fun others data => .ok ?_
        rw [isData_list] at data ⊢
        intro v mem
        rcases List.mem_cons.mp mem with rfl | mem
        · exact first
        · exact data v mem
      · exact .error _

theorem tableItems_data : ∀ (fuel : Nat) {t : InlineTable}, AreData t.entries →
    ∀ cs : List Char, Yields (fun r => AreData r.1) (tableItems fuel t cs)
  | 0, t, _, cs => by
    simp only [tableItems]
    exact .error _
  | fuel + 1, t, data, cs => by
    simp only [tableItems]
    refine .after fun key => ?_
    refine (value_data fuel _).bind fun r isData => ?_
    refine (InlineTable.insert_data data _ isData).bind fun t inserted => ?_
    split
    · exact .ok inserted
    · exact tableItems_data fuel inserted _
    · exact .error _

end

/-! ## Documents -/

namespace Document

variable {d : Document}

/-- The root of the document that a change of the root makes is data. -/
theorem root_data {change : Entries → Except Flaw Entries} (keeps : KeepsData change)
    (path : List String) {next : Entries → Document}
    (root : ∀ entries, (next entries).root = entries)
    (data : AreData d.root) :
    Yields (fun d => AreData d.root) (do return next (← descend true change path d.root)) :=
  (descend_data keeps path _ data).bind fun entries changed => .ok (by rw [root]; exact changed)

theorem assign_data (data : AreData d.root) (key : List String) {v : Value}
    (isData : v.isData = true) : Yields (fun d => AreData d.root) (d.assign key v) := by
  have added : KeepsData (addNew (splitKey key).2 v) := addNew_data _ isData
  unfold assign
  dsimp only
  split
  · exact .error _
  · split
    · exact .error _
    · exact root_data added _ (fun _ => rfl) data

theorem openTable_data (data : AreData d.root) (key : List String) :
    Yields (fun d => AreData d.root) (d.openTable key) := by
  have same : KeepsData .ok := fun entries data => .ok data
  unfold openTable
  dsimp only
  split
  · exact .error _
  · exact root_data same _ (fun _ => rfl) data

theorem addMember_data (name : String) : KeepsData (addMember name) := by
  intro entries data
  have empty : (Value.table []).isData = true := rfl
  unfold addMember
  split
  · refine .ok (areData_snoc data name ?_)
    rw [isData_list]
    intro v mem
    rw [List.mem_singleton.mp mem]
    exact empty
  · rename_i items found
    have members := isData_list.mp (everyLeaf_named data found)
    refine .ok (replaceNamed_data data name ?_)
    rw [isData_list]
    intro v mem
    rcases List.mem_append.mp mem with mem | last
    · exact members v mem
    · rw [List.mem_singleton.mp last]
      exact empty
  · exact .error _

theorem openMember_data (data : AreData d.root) (key : List String) :
    Yields (fun d => AreData d.root) (d.openMember key) := by
  unfold openMember
  dsimp only
  split
  · exact .error _
  · exact root_data (addMember_data _) _ (fun _ => rfl) data

end Document

theorem headerLine_data {d : Document} (data : AreData d.root) (cs : List Char) :
    Yields (fun r => AreData r.1.root) (headerLine d cs) := by
  unfold headerLine
  split
  · refine .after fun key => ?_
    refine (Document.openMember_data data _).bind fun d opened => ?_
    split
    · exact .ok opened
    · exact .error _
  · refine .after fun key => ?_
    refine (Document.openTable_data data _).bind fun d opened => ?_
    split
    · exact .ok opened
    · exact .error _

theorem statement_data (fuel : Nat) {d : Document} (data : AreData d.root) (cs : List Char) :
    Yields (fun r => AreData r.1.root) (statement fuel d cs) := by
  unfold statement
  split
  · exact headerLine_data data _
  · split
    · refine .after fun key => ?_
      refine (value_data fuel _).bind fun r isData => ?_
      exact (Document.assign_data data _ isData).bind fun d assigned => .ok assigned
    · split
      · exact .ok data
      · exact .error _
  · exact .ok data

theorem lines_data (size : Nat) : ∀ (fuel : Nat) {d : Document}, AreData d.root →
    ∀ cs : List Char, Yields (fun d => AreData d.root) (lines size fuel d cs)
  | 0, _, _, _ => .error _
  | fuel + 1, d, data, cs => by
    unfold lines
    refine (statement_data size data _).bind fun r read => ?_
    refine .after fun rest => ?_
    split
    · exact .ok read
    · exact lines_data size fuel read _
    · exact .error _

/-- **What is read from a document** is data. -/
theorem parse_data (source : String) : Yields AreData (parse source) :=
  (lines_data _ _ areData_nil _).bind fun _ data => .ok data

end Formwright.Toml
