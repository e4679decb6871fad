import Formwright.Proofs.Render.Brackets

/-!
# Paths to controls

A control is reached from the model through rows, any number of them, and is given by its key in the
last one. The index of a row may be any value; in the name it stands as it is printed. Two controls
have one name only if they are reached on the same path.

- `ControlPath`, `ControlPath.name`: a path, and the name of the control at its end.
- `rowParts_inj`: paths of all lengths have parts of their own.
- `name_eq_iff`: names are equal if and only if the paths are.
-/

namespace Formwright

/-- A row of a relation. The index may be any value. -/
structure RowStep where
  relation : String
  index : Value

/-- The row as it stands in names. -/
def RowStep.printed (step : RowStep) : String × String := (step.relation, step.index.toText)

/-- The path to a control. -/
structure ControlPath where
  model : String
  /-- The rows on the way, from the outermost. -/
  rows : List RowStep
  field : String

namespace ControlPath

/-- The scope at the end of the path. -/
def scope (p : ControlPath) : FieldScope :=
  p.rows.foldl (fun s step => s.nested step.relation step.index.toText) (.ofModel p.model)

/-- The name of the control at the end of the path. -/
def name (p : ControlPath) : String := p.scope.elementName p.field

/-- The rows on the way as they stand in names. -/
def printedRows (p : ControlPath) : List (String × String) := p.rows.map RowStep.printed

/-- Nothing on the path has a bracket in it. -/
def isFree (p : ControlPath) : Bool :=
  isBracketless p.model && isBracketless p.field && areBracketless p.printedRows

theorem scope_eq_through (p : ControlPath) :
    p.scope = (FieldScope.ofModel p.model).through p.printedRows := by
  rw [scope, FieldScope.through, printedRows, List.foldl_map]
  rfl

theorem nameParts_name {p : ControlPath} (free : p.isFree = true) :
    nameParts p.name = p.model :: (rowParts p.printedRows ++ [p.field]) := by
  simp only [isFree, Bool.and_eq_true] at free
  obtain ⟨⟨model, field⟩, rows⟩ := free
  rw [name, scope_eq_through]
  exact nameParts_elementName model field rows

end ControlPath

/-- A row adds two parts and a field one, so that the number of parts tells the number of rows. -/
theorem rowParts_inj {rows rows' : List (String × String)} {field field' : String} :
    rowParts rows ++ [field] = rowParts rows' ++ [field'] ↔ rows = rows' ∧ field = field' := by
  constructor
  · intro same
    induction rows generalizing rows' with
    | nil =>
      cases rows' with
      | nil => simpa [rowParts] using same
      | cons row' rest' => simp [rowParts] at same
    | cons row rest ih =>
      cases rows' with
      | nil => simp [rowParts] at same
      | cons row' rest' =>
        obtain ⟨relation, index⟩ := row
        obtain ⟨relation', index'⟩ := row'
        change FieldScope.rowsKey relation :: index :: (rowParts rest ++ [field]) =
          FieldScope.rowsKey relation' :: index' :: (rowParts rest' ++ [field']) at same
        obtain ⟨keys, others⟩ := List.cons.inj same
        obtain ⟨indices, later⟩ := List.cons.inj others
        obtain ⟨rows, fields⟩ := ih later
        rw [FieldScope.rowsKey_injective keys, indices, rows]
        exact ⟨rfl, fields⟩
  · rintro ⟨rfl, rfl⟩
    rfl

namespace ControlPath

/-- **Names tell paths apart.** Two controls whose paths have no brackets in them have the same name
if and only if the paths have the same model, the same rows and the same field. Indices of rows are
compared as they are printed. -/
theorem name_eq_iff {p q : ControlPath} (hp : p.isFree = true) (hq : q.isFree = true) :
    p.name = q.name ↔
      p.model = q.model ∧ p.printedRows = q.printedRows ∧ p.field = q.field := by
  constructor
  · intro same
    have parts := congrArg nameParts same
    rw [nameParts_name hp, nameParts_name hq] at parts
    obtain ⟨model, rest⟩ := List.cons.inj parts
    obtain ⟨rows, field⟩ := rowParts_inj.mp rest
    exact ⟨model, rows, field⟩
  · rintro ⟨model, rows, field⟩
    rw [name, name, scope_eq_through, scope_eq_through, model, rows, field]

/-- The rate of a tax on a line of an order. -/
def taxRate (line tax : Value) : ControlPath where
  model := "order"
  rows := [⟨"lines", line⟩, ⟨"taxes", tax⟩]
  field := "rate"

/-- Numbers and texts that are printed alike give one name, and rows that change places give
another. -/
theorem name_eq_iff_taxRate :
    (taxRate (.int 0) (.int 1)).isFree = true ∧ (taxRate (.text "0") (.text "1")).isFree = true ∧
      (taxRate (.int 1) (.int 0)).isFree = true ∧
      (taxRate (.int 0) (.int 1)).name = (taxRate (.text "0") (.text "1")).name ∧
      (taxRate (.int 0) (.int 1)).name ≠ (taxRate (.int 1) (.int 0)).name := by
  have numbers : (taxRate (.int 0) (.int 1)).isFree = true := by decide +kernel
  have texts : (taxRate (.text "0") (.text "1")).isFree = true := by decide +kernel
  have exchanged : (taxRate (.int 1) (.int 0)).isFree = true := by decide +kernel
  refine ⟨numbers, texts, exchanged, ?_, ?_⟩
  · exact (name_eq_iff numbers texts).mpr ⟨rfl, by decide +kernel, rfl⟩
  · intro same
    obtain ⟨-, rows, -⟩ := (name_eq_iff numbers exchanged).mp same
    exact absurd rows (by decide +kernel)

/-- With a bracket in the model two paths may share a name. -/
example : (ControlPath.mk "order" [⟨"lines", .int 0⟩] "rate").name =
    (ControlPath.mk "order[lines_attributes][0]" [] "rate").name := by
  decide +kernel

end ControlPath

end Formwright
