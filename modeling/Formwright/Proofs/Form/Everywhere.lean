import Formwright.Form.Tree

/-!
# Properties of all nodes of a tree

Many conditions on a form concern its nodes one by one, wherever they stand: in groups, among the
actions, or in the rows that a builder gives for any record. `Node.Everywhere p` says that a node
and all nodes below it have the property `p`.
-/

namespace Formwright.Form

mutual

/-- The node and all nodes below it have the property. -/
def Node.Everywhere (p : Node → Prop) : Node → Prop
  | .input field o => p (.input field o)
  | .fieldset label body o => p (.fieldset label body o) ∧ Node.AllEverywhere p body
  | .hasMany field rows o => p (.hasMany field rows o) ∧ ∀ record, (rows record).Everywhere p
  | .actions body => p (.actions body) ∧ Node.AllEverywhere p body
  | .content content isMarkup => p (.content content isMarkup)
  | .script script => p (.script script)

/-- The nodes and all nodes below them have the property. -/
def Node.AllEverywhere (p : Node → Prop) : List Node → Prop
  | [] => True
  | n :: rest => n.Everywhere p ∧ Node.AllEverywhere p rest

/-- The nodes of a row have the property. -/
def RowForm.Everywhere (p : Node → Prop) : RowForm → Prop
  | .nodes body => Node.AllEverywhere p body
  | .fault _ => True

end

variable {p : Node → Prop}

theorem Node.allEverywhere_iff {ns : List Node} :
    Node.AllEverywhere p ns ↔ ∀ n ∈ ns, n.Everywhere p := by
  induction ns with
  | nil => simp [Node.AllEverywhere]
  | cons n rest ih => simp [Node.AllEverywhere, ih]

theorem Node.everywhere_self {n : Node} (h : n.Everywhere p) : p n := by
  cases n with
  | input field o => exact h
  | fieldset label body o => exact h.1
  | hasMany field rows o => exact h.1
  | actions body => exact h.1
  | content content isMarkup => exact h
  | script script => exact h

theorem Node.everywhere_group {label : String} {body : List Node} {o : FieldOptions}
    (h : (Node.fieldset label body o).Everywhere p) : ∀ n ∈ body, n.Everywhere p :=
  Node.allEverywhere_iff.mp h.2

theorem Node.everywhere_actions {body : List Node} (h : (Node.actions body).Everywhere p) :
    ∀ n ∈ body, n.Everywhere p :=
  Node.allEverywhere_iff.mp h.2

theorem Node.everywhere_rows {field : String} {rows : Value → RowForm} {o : FieldOptions}
    (h : (Node.hasMany field rows o).Everywhere p) (record : Value) : (rows record).Everywhere p :=
  h.2 record

end Formwright.Form
