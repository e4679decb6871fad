import Formwright.Proofs.Value.Leaves

/-!
# Values without markup

A value is plain when no text in it is marked up, however deep. Whatever is read from a plain value
is plain: its fields, its members, and a table with plain entries put over it.
-/

namespace Formwright.Value

/-- The value is not marked up. -/
def isUnmarked : Value → Bool
  | .markup _ => false
  | _ => true

/-- No text in the value is marked up. -/
def isPlain (v : Value) : Bool := v.everyLeaf isUnmarked

def arePlain (items : List Value) : Bool := allLeaves isUnmarked items

def entriesPlain (entries : List (Value × Value)) : Bool := entryLeaves isUnmarked entries

def attributesPlain (attributes : List (String × Value)) : Bool :=
  attributeLeaves isUnmarked attributes

theorem arePlain_iff {items : List Value} :
    arePlain items = true ↔ ∀ v ∈ items, v.isPlain = true := everyLeaf_list

theorem entriesPlain_iff {entries : List (Value × Value)} :
    entriesPlain entries = true ↔ ∀ e ∈ entries, e.1.isPlain = true ∧ e.2.isPlain = true :=
  everyLeaf_table

theorem attributesPlain_iff {attributes : List (String × Value)} :
    attributesPlain attributes = true ↔ ∀ e ∈ attributes, e.2.isPlain = true := everyLeaf_object

@[simp] theorem arePlain_cons (v : Value) (rest : List Value) :
    arePlain (v :: rest) = (v.isPlain && arePlain rest) := rfl

theorem entriesPlain_cons (key v : Value) (rest : List (Value × Value)) :
    entriesPlain ((key, v) :: rest) = (key.isPlain && v.isPlain && entriesPlain rest) := rfl

@[simp] theorem isPlain_markup (s : String) : (Value.markup s).isPlain = false := rfl

@[simp] theorem isPlain_text (s : String) : (Value.text s).isPlain = true := rfl

@[simp] theorem isPlain_bool (b : Bool) : (Value.bool b).isPlain = true := rfl

@[simp] theorem isPlain_none : Value.none.isPlain = true := rfl

@[simp] theorem isPlain_list (items : List Value) : (Value.list items).isPlain = arePlain items :=
  rfl

@[simp] theorem isPlain_tuple (items : List Value) :
    (Value.tuple items).isPlain = arePlain items := rfl

@[simp] theorem isPlain_table (entries : List (Value × Value)) :
    (Value.table entries).isPlain = entriesPlain entries := rfl

@[simp] theorem isPlain_object (attributes : List (String × Value)) :
    (Value.object attributes).isPlain = attributesPlain attributes := rfl

@[simp] theorem isPlain_ofText? (s : Option String) : (ofText? s).isPlain = true := by
  cases s with
  | none => rfl
  | some s => rfl

theorem isPlain_ofOption {v : Option Value} (h : ∀ w, v = some w → w.isPlain = true) :
    (ofOption v).isPlain = true := by
  cases v with
  | none => rfl
  | some w => exact h w rfl

/-! ## Reading from plain values -/

theorem isPlain_named? {entries : List (Value × Value)} (plain : entriesPlain entries = true)
    {name : String} {v : Value} (found : named? entries name = some v) : v.isPlain = true :=
  everyLeaf_named plain found

theorem isPlain_of_mem_attributes {v : Value} (plain : v.isPlain = true) :
    ∀ e ∈ v.attributes, e.2.isPlain = true := by
  cases v with
  | object attributes => exact attributesPlain_iff.mp plain
  | time t =>
    simp only [attributes, clockComponents, rangeAttributes]
    cases t.offset <;> simp [isPlain, everyLeaf, isUnmarked, ofOption]
  | datetime d t =>
    simp only [attributes, clockComponents, dateComponents, rangeAttributes]
    cases t.offset <;> simp [isPlain, everyLeaf, isUnmarked, ofOption]
  | _ =>
    simp [attributes, wholeAttributes, dateComponents, rangeAttributes, isPlain, everyLeaf,
      isUnmarked]

theorem isPlain_field? {record v : Value} (plain : record.isPlain = true) {name : String}
    (found : record.field? name = some v) : v.isPlain = true := by
  unfold field? at found
  split at found
  · exact isPlain_named? plain found
  · obtain ⟨e, he, -, rfl⟩ : ∃ e ∈ record.attributes, e.1 = name ∧ e.2 = v := by
      obtain ⟨before, after, split, -⟩ := List.lookup_eq_some_iff.mp found
      exact ⟨(name, v), by simp [split], rfl, rfl⟩
    exact isPlain_of_mem_attributes plain e he

theorem isPlain_field {record : Value} (plain : record.isPlain = true) (name : String) :
    (record.field name).isPlain = true :=
  isPlain_ofOption fun _ found => isPlain_field? plain found

/-- The members of a plain value are plain; those of a text are texts whatever it is. -/
theorem isPlain_items? {v : Value} (plain : v.isPlain = true ∨ v.string?.isSome)
    {items : List Value}
    (members : v.items? = some items) : ∀ w ∈ items, w.isPlain = true := by
  rcases plain with plain | text
  · exact items?_leaves (fun _ => rfl) plain members
  cases v with
  | text s | markup s =>
    cases members
    intro w mem
    obtain ⟨c, -, rfl⟩ := List.mem_map.mp mem
    rfl
  | _ => cases text

theorem isPlain_membersOrNone {v : Value} (plain : v.isPlain = true ∨ v.string?.isSome)
    {items : List Value} (members : v.membersOrNone = .ok items) :
    ∀ w ∈ items, w.isPlain = true := by
  unfold membersOrNone Value.members at members
  split at members
  · split at members
    · cases members
      exact isPlain_items? plain ‹_›
    · cases members
  · cases members
    simp

end Formwright.Value
