import Formwright.Proofs.Outcome
import Formwright.Value.Entries
import Formwright.Value.Text

/-!
# What a value is made of

What holds of all that a value is made of holds of what is read from it: of the members of lists and
tuples, and of the keys and values of tables.

- `everyLeaf_list`, `everyLeaf_table`: parts of a value.
- `items?_leaves`, `entriesOf_leaves`: what is read from a value.
- `isData`, `IsStored`: nothing in a value is worked out when a form is rendered.
-/

namespace Formwright.Value

open Outcome

variable {p : Value → Bool}

/-! ## Parts of a value -/

theorem everyLeaf_list {items : List Value} :
    (Value.list items).everyLeaf p = true ↔ ∀ v ∈ items, v.everyLeaf p = true := by
  change allLeaves p items = true ↔ _
  induction items with
  | nil => simp [allLeaves]
  | cons v rest ih => simp [allLeaves, ih]

theorem everyLeaf_tuple {items : List Value} :
    (Value.tuple items).everyLeaf p = true ↔ ∀ v ∈ items, v.everyLeaf p = true := everyLeaf_list

theorem everyLeaf_table {entries : List (Value × Value)} :
    (Value.table entries).everyLeaf p = true ↔
      ∀ e ∈ entries, e.1.everyLeaf p = true ∧ e.2.everyLeaf p = true := by
  change entryLeaves p entries = true ↔ _
  induction entries with
  | nil => simp [entryLeaves]
  | cons e rest ih => simp [entryLeaves, ih, and_assoc]

theorem everyLeaf_object {attributes : List (String × Value)} :
    (Value.object attributes).everyLeaf p = true ↔ ∀ e ∈ attributes, e.2.everyLeaf p = true := by
  change attributeLeaves p attributes = true ↔ _
  induction attributes with
  | nil => simp [attributeLeaves]
  | cons e rest ih => simp [attributeLeaves, ih]

theorem everyLeaf_named {entries : List (Value × Value)}
    (leaves : (Value.table entries).everyLeaf p = true) {name : String} {v : Value}
    (found : named? entries name = some v) : v.everyLeaf p = true := by
  obtain ⟨e, mem, rfl⟩ := Option.map_eq_some_iff.mp found
  exact (everyLeaf_table.mp leaves e (List.mem_of_find?_eq_some mem)).2

/-! ## What is read from a value -/

section

variable (texts : ∀ s, p (.text s) = true)
include texts

/-- The members of a value are made of what the value is made of, or they are characters. -/
theorem items?_leaves {v : Value} (leaves : v.everyLeaf p = true) {items : List Value}
    (members : v.items? = some items) : ∀ w ∈ items, w.everyLeaf p = true := by
  have ofText : ∀ s : String, ∀ w ∈ characters s, w.everyLeaf p = true := by
    intro s w mem
    obtain ⟨c, -, rfl⟩ := List.mem_map.mp mem
    exact texts _
  cases v with
  | list items =>
    cases members
    exact everyLeaf_list.mp leaves
  | tuple items =>
    cases members
    exact everyLeaf_tuple.mp leaves
  | table entries =>
    cases members
    intro w mem
    obtain ⟨e, found, rfl⟩ := List.mem_map.mp mem
    exact (everyLeaf_table.mp leaves e found).1
  | text s =>
    cases members
    exact ofText s
  | markup s =>
    cases members
    exact ofText s
  | _ => cases members

theorem members_leaves {v : Value} (leaves : v.everyLeaf p = true) :
    Yields (fun items => ∀ w ∈ items, w.everyLeaf p = true) (members v) := by
  unfold members
  split
  · rename_i items found
    exact .ok (items?_leaves texts leaves found)
  · exact .error _

omit texts in
theorem put_leaves {key v : Value} (keyLeaves : key.everyLeaf p = true)
    (leaves : v.everyLeaf p = true) {entries : List (Value × Value)}
    (before : (Value.table entries).everyLeaf p = true) :
    (Value.table (put key v entries)).everyLeaf p = true := by
  rw [everyLeaf_table] at before ⊢
  induction entries with
  | nil =>
    intro e mem
    rw [List.mem_singleton.mp mem]
    exact ⟨keyLeaves, leaves⟩
  | cons first rest ih =>
    have others := ih fun e mem => before e (List.mem_cons_of_mem _ mem)
    intro e mem
    unfold put at mem
    split at mem
    · rcases List.mem_cons.mp mem with rfl | mem
      · exact ⟨(before first List.mem_cons_self).1, leaves⟩
      · exact before e (List.mem_cons_of_mem _ mem)
    · rcases List.mem_cons.mp mem with rfl | mem
      · exact before _ List.mem_cons_self
      · exact others e mem

omit texts in
theorem tableOf_leaves {entries : List (Value × Value)}
    (leaves : ∀ e ∈ entries, e.1.everyLeaf p = true ∧ e.2.everyLeaf p = true) :
    (Value.table (tableOf entries)).everyLeaf p = true := by
  suffices onto : ∀ before : List (Value × Value), (Value.table before).everyLeaf p = true →
      (Value.table (entries.foldl (fun table e => put e.1 e.2 table) before)).everyLeaf p =
        true from
    onto [] rfl
  induction entries with
  | nil => exact fun before kept => kept
  | cons e rest ih =>
    intro before kept
    obtain ⟨keyLeaves, valueLeaves⟩ := leaves e List.mem_cons_self
    exact ih (fun e mem => leaves e (List.mem_cons_of_mem _ mem)) _
      (put_leaves keyLeaves valueLeaves kept)

theorem pairEntry_leaves {v : Value} (leaves : v.everyLeaf p = true) :
    Yields (fun e => e.1.everyLeaf p = true ∧ e.2.everyLeaf p = true) (pairEntry v) := by
  have parts : Yields (fun e => e.1.everyLeaf p = true ∧ e.2.everyLeaf p = true)
      (pairParts v) := by
    refine (members_leaves texts leaves).bind fun items each => ?_
    split
    · exact .ok ⟨each _ (by simp), each _ (by simp)⟩
    · exact .error _
  refine parts.bind fun e each => ?_
  dsimp only
  split
  · exact .ok each
  · exact .error _

theorem entriesOf_leaves {v : Value} (leaves : v.everyLeaf p = true) :
    Yields (fun entries => (Value.table entries).everyLeaf p = true) (entriesOf v) := by
  unfold entriesOf
  split
  · exact .ok leaves
  · refine (members_leaves texts leaves).bind fun items each => ?_
    exact (Yields.mapM fun item mem => pairEntry_leaves texts (each item mem)).bind
      fun entries all => .ok (tableOf_leaves all)

end

/-! ## Data -/

/-- The value is there before a form is rendered. -/
def isFixed : Value → Bool
  | .computed _ => false
  | _ => true

/-- Nothing in the value is worked out when a form is rendered. -/
def isData (v : Value) : Bool := v.everyLeaf isFixed

theorem isData_list {items : List Value} :
    (Value.list items).isData = true ↔ ∀ v ∈ items, v.isData = true := everyLeaf_list

theorem isData_table {entries : List (Value × Value)} :
    (Value.table entries).isData = true ↔ ∀ e ∈ entries, e.1.isData = true ∧ e.2.isData = true :=
  everyLeaf_table

/-- Nothing in the value is worked out when a form is rendered, and every number in it can be
written. -/
structure IsStored (v : Value) : Prop where
  data : v.isData = true
  showable : v.isShowable = true

namespace IsStored

theorem of_mem {items : List Value} (stored : (Value.list items).IsStored) {v : Value}
    (mem : v ∈ items) : v.IsStored :=
  ⟨everyLeaf_list.mp stored.data v mem, everyLeaf_list.mp stored.showable v mem⟩

theorem of_entry {entries : List (Value × Value)} (stored : (Value.table entries).IsStored)
    {e : Value × Value} (mem : e ∈ entries) : e.2.IsStored :=
  ⟨(everyLeaf_table.mp stored.data e mem).2, (everyLeaf_table.mp stored.showable e mem).2⟩

theorem of_named {entries : List (Value × Value)} (stored : (Value.table entries).IsStored)
    {name : String} {v : Value} (found : named? entries name = some v) : v.IsStored :=
  ⟨everyLeaf_named stored.data found, everyLeaf_named stored.showable found⟩

theorem filter {entries : List (Value × Value)} (stored : (Value.table entries).IsStored)
    (keep : Value × Value → Bool) : (Value.table (entries.filter keep)).IsStored where
  data := everyLeaf_table.mpr fun e mem =>
    everyLeaf_table.mp stored.data e (List.mem_filter.mp mem).1
  showable := everyLeaf_table.mpr fun e mem =>
    everyLeaf_table.mp stored.showable e (List.mem_filter.mp mem).1

theorem members {v : Value} (stored : v.IsStored) :
    Yields (fun items => ∀ w ∈ items, w.IsStored) (members v) := by
  intro items read w mem
  exact ⟨members_leaves (fun _ => rfl) stored.data items read w mem,
    members_leaves (fun _ => rfl) stored.showable items read w mem⟩

theorem entriesOf {v : Value} (stored : v.IsStored) :
    Yields (fun entries => (Value.table entries).IsStored) (entriesOf v) := by
  intro entries read
  exact ⟨entriesOf_leaves (fun _ => rfl) stored.data entries read,
    entriesOf_leaves (fun _ => rfl) stored.showable entries read⟩

end IsStored

end Formwright.Value
