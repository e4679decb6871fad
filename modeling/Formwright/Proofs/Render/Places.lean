import Formwright.Proofs.Render.Field
import Formwright.Proofs.Render.Walk

/-!
# Places of a form

A node stands in a form or in the rows of some relations, one in the other; the relations are the
path to it. What an input shows there depends on few things: the value under its key, and the marks
of the context.

- `Placed`: the nodes of a form with the paths to them.
- `Placed.through`: a path leads through relations of the form.
- `Output.Same`, `input_same`: when an input shows the same in two renderings.
- `relation_same`: when a relation has the same rows.
-/

namespace Formwright

namespace Form

/-- The builder gives the same for every record as for none. -/
def Unvarying (rows : Value → RowForm) : Prop := ∀ record, rows record = rows .none

/-- The nodes of a row. -/
def RowForm.given : RowForm → List Node
  | .nodes body => body
  | .fault _ => []

theorem RowForm.everywhere_given {p : Node → Prop} {form : RowForm} (has : form.Everywhere p) :
    ∀ n ∈ form.given, n.Everywhere p := by
  cases form with
  | nodes body => exact Node.allEverywhere_iff.mp has
  | fault fault => simp [RowForm.given]

theorem RowForm.met_of_given {meets : Node → Render.Frame → Prop} {f : Render.Frame}
    {form : RowForm} (each : ∀ n ∈ form.given, meets n f) : form.Met meets f := by
  cases form with
  | nodes body => exact each
  | fault fault => trivial

end Form

namespace Render

open Form Outcome

/-! ## Nodes with the paths to them -/

/-- The model of the records of a relation. -/
def Renderer.relatedModel (r : Renderer) (model field : String) : String :=
  (r.assoc? model field).elim "" (·.relatedModel)

theorem Renderer.related_eq {r : Renderer} {f : Frame} {field : String} {rel : Renderer.Relation}
    (found : r.relation f field = .ok rel) : rel.related = r.relatedModel f.model field := by
  obtain ⟨⟨a, assoc, related⟩, -, -⟩ := Renderer.relation_inv found
  rw [related, Renderer.relatedModel, assoc?_of_ok assoc]
  rfl

/-- The path leads from nodes for a record of a model to this node, which is for records of a model
of its own. -/
inductive Placed (r : Renderer) (ns : List Form.Node) (model : String) :
    List String → String → Form.Node → Prop where
  | top {n : Form.Node} (mem : n ∈ ns) : Placed r ns model [] model n
  | grouped {path : List String} {m label : String} {body : List Form.Node} {o : FieldOptions}
      {n : Form.Node} (placed : Placed r ns model path m (.fieldset label body o))
      (mem : n ∈ body) : Placed r ns model path m n
  | action {path : List String} {m : String} {body : List Form.Node} {n : Form.Node}
      (placed : Placed r ns model path m (.actions body)) (mem : n ∈ body) :
      Placed r ns model path m n
  | row {path : List String} {m field : String} {rows : Value → RowForm} {o : FieldOptions}
      {n : Form.Node} (placed : Placed r ns model path m (.hasMany field rows o)) (record : Value)
      (mem : n ∈ (rows record).given) :
      Placed r ns model (path ++ [field]) (r.relatedModel m field) n

namespace Placed

variable {r : Renderer} {ns : List Form.Node} {model m m' : String} {path : List String}
  {n n' : Form.Node}

theorem model_eq (h : Placed r ns model path m n) : m = path.foldl r.relatedModel model := by
  induction h with
  | top _ => rfl
  | grouped _ _ ih => exact ih
  | action _ _ ih => exact ih
  | row _ _ _ ih => rw [List.foldl_append, ← ih]; rfl

/-- A path leads through relations of the form. -/
theorem through {relation : String} {before after : List String}
    (h : Placed r ns model (before ++ relation :: after) m n) :
    ∃ m' rows o, Placed r ns model before m' (.hasMany relation rows o) := by
  generalize whole : before ++ relation :: after = path at h
  induction h generalizing after with
  | top _ => simp at whole
  | grouped _ _ ih => exact ih whole
  | action _ _ ih => exact ih whole
  | row placed _ _ ih =>
    -- the relation is the last one of the path, or it comes before the last one
    rcases List.eq_nil_or_concat after with rfl | ⟨init, last, rfl⟩
    · obtain ⟨rfl, same⟩ := List.append_inj' whole rfl
      cases same
      exact ⟨_, _, _, placed⟩
    · rw [List.concat_eq_append, ← List.cons_append, ← List.append_assoc] at whole
      exact ih (List.append_inj' whole rfl).1

end Placed

/-! ## What an input reads -/

/-- The choices of an input do not depend on what is rendered. -/
def Renderer.IsConstant (r : Renderer) (collection : Option Collection) : Prop :=
  ∃ given, ∀ (c : Context) (record : Value),
    (r.itemsOf collection c record).map Prod.fst = given

/-- The same markup and the same listeners. -/
structure Output.Same (out out' : Output) : Prop where
  html : out.html = out'.html
  listeners : out.listeners = out'.listeners

namespace Renderer

variable {r : Renderer} {c c' : Context} {f f' : Frame} {field : String} {o : FieldOptions}

/-- The contexts differ in record, submitted values and mode at most. -/
structure SameRequest (c c' : Context) : Prop where
  modelName : c.modelName = c'.modelName
  required : c.required = c'.required
  today : c.today = c'.today
  errors : c.errors = c'.errors

/-- The frames are of one model, named alike, and both show errors or not. -/
structure SamePlace (f f' : Frame) : Prop where
  model : f.model = f'.model
  scope : f.scope = f'.scope
  bindErrors : f.bindErrors = f'.bindErrors

theorem describe_same (request : SameRequest c c') (place : SamePlace f f')
    (displayed : o.display = true) {key : String} (value : f.value key = f'.value key) :
    r.describe c f field key o = r.describe c' f' field key o := by
  simp only [describe, errorsOf, isVisible, displayed, Bool.true_or, request.required,
    request.errors, place.model, place.scope, place.bindErrors, value]

theorem itemsOf_same (constant : r.IsConstant o.collection) (record record' : Value) :
    Alike (fun a b => a.1 = b.1) (r.itemsOf o.collection c record)
      (r.itemsOf o.collection c' record') := by
  obtain ⟨given, always⟩ := constant
  exact .of_map_eq ((always c record).trans (always c' record').symm)

theorem association_same (request : SameRequest c c') (place : SamePlace f f')
    (displayed : o.display = true) (constant : r.IsConstant o.collection)
    (chosen : o.collection.isSome = true)
    (value : f.value (r.inputKey f.model field o) = f'.value (r.inputKey f.model field o))
    (selected : isMany (r.assoc? f.model field) = true →
      r.selectedIds f field = r.selectedIds f' field) :
    Alike (fun a b => a.1 = b.1) (r.association c f field o) (r.association c' f' field o) := by
  unfold association
  refine (itemsOf_same constant _ _).bind fun a b _ _ same => ?_
  obtain ⟨items, calls⟩ := a
  obtain ⟨items', calls'⟩ := b
  obtain rfl : items = items' := same
  rw [← place.model]
  cases found : r.schema.association? f.model field with
  | error e => exact .error e
  | ok assoc =>
    unfold inputKey at value
    rw [if_pos chosen, assoc?_of_ok found] at value
    rw [assoc?_of_ok found] at selected
    simp only [ok_bind]
    by_cases many : isMany assoc = true
    · rw [if_pos many, if_pos many]
      rw [if_pos many] at value
      have same : r.manyControl c f field o items = r.manyControl c' f' field o items := by
        simp only [manyControl, describe_same request place displayed value, selected many]
      rw [same]
      exact .bind_same fun _ _ => .ok rfl
    · rw [if_neg many, if_neg many]
      rw [if_neg many] at value
      have same : r.singleControl c f field o items (Schema.keyOf assoc field) =
          r.singleControl c' f' field o items (Schema.keyOf assoc field) := by
        simp only [singleControl, describe_same request place displayed value]
      rw [same]
      exact .bind_same fun _ _ => .ok rfl

/-- **The same input.** What an input shows depends on the value under its key, on the chosen
members of a has-many association, and on the marks of the request. -/
theorem input_same (request : SameRequest c c') (place : SamePlace f f')
    (displayed : o.display = true) (constant : r.IsConstant o.collection)
    (value : f.value (r.inputKey f.model field o) = f'.value (r.inputKey f.model field o))
    (selected : o.collection.isSome = true → isMany (r.assoc? f.model field) = true →
      r.selectedIds f field = r.selectedIds f' field) :
    Alike Output.Same (r.input c f field o) (r.input c' f' field o) := by
  unfold Renderer.input
  rw [← place.model]
  refine .bind_same fun type _ => ?_
  refine Alike.bind (R := fun a b => a.1 = b.1 ∧ a.2.1 = b.2.1) ?_ fun a b _ _ same => ?_
  · unfold control
    by_cases chosen : o.collection.isSome = true
    · rw [if_pos chosen, if_pos chosen]
      exact (association_same request place displayed constant chosen value (selected chosen)).bind
        fun a b _ _ same => .ok ⟨same, rfl⟩
    · rw [if_neg chosen, if_neg chosen]
      rw [inputKey, if_neg chosen] at value
      have same : r.scalarControl c f field o (ControlKind.resolve (.ofDeclared type) o false) =
          r.scalarControl c' f' field o (ControlKind.resolve (.ofDeclared type) o false) := by
        simp only [scalarControl, describe_same request place displayed value, request.today]
      dsimp only
      rw [same]
      exact .bind_same fun _ _ => .ok ⟨rfl, rfl⟩
  · obtain ⟨shown, kind, calls⟩ := a
    obtain ⟨shown', kind', calls'⟩ := b
    obtain ⟨rfl, rfl⟩ : shown = shown' ∧ kind = kind' := same
    have item : r.item f field o kind shown = r.item f' field o kind shown := by
      simp only [Renderer.item, place.scope]
    dsimp only
    rw [item]
    refine .bind_same fun html _ => .ok ⟨rfl, ?_⟩
    simp only [listenersOf, request.modelName]

/-! ## What a relation reads -/

/-- The relations are read from two frames, and their records are related. -/
structure SameRelation (r : Renderer) (records : List Value → List Value → Prop) (f f' : Frame)
    (field : String) (rel rel' : Relation) : Prop where
  model : rel.related = r.relatedModel f.model field
  related : rel.related = rel'.related
  records : records rel.records rel'.records
  submitted : rel.submitted = .ofOption (f.submitted? (FieldScope.rowsKey field))
  submitted' : rel'.submitted = .ofOption (f'.submitted? (FieldScope.rowsKey field))

/-- **The same relation.** The rows to draw for a relation depend on the related records, and on
what was submitted for them. -/
theorem relation_same {R : List Value → List Value → Prop} (model : f.model = f'.model)
    (records : Alike R (f.record.field field).membersOrNone (f'.record.field field).membersOrNone) :
    Alike (r.SameRelation R f f' field) (r.relation f field) (r.relation f' field) := by
  unfold Renderer.relation
  rw [← model]
  refine .bind_same fun assoc found => ?_
  split
  · split
    · refine records.bind fun _ _ _ _ related => .ok ⟨?_, rfl, related, rfl, rfl⟩
      rw [relatedModel, assoc?_of_ok found]
      rfl
    · exact .error _
  · exact .error _

end Renderer

/-- The nodes that a builder gives for all records are met where the path leads. -/
theorem Placed.builtMet {r : Renderer} {ns : List Form.Node} {model : String}
    {path : List String} {m field : String} {rows : Value → RowForm} {o : FieldOptions}
    {beside : List String → Frame → Frame → Prop} {row row' : Frame}
    (placed : Placed r ns model path m (.hasMany field rows o))
    (unvarying : Unvarying rows)
    (rowModel : row.model = r.relatedModel m field) (same : row.model = row'.model)
    (sideBySide : beside (path ++ [field]) row row') :
    BuiltMet (fun n f f' => ∃ path, Placed r ns model path f.model n ∧ beside path f f')
      row row' rows where
  same := by
    rw [unvarying row.record, unvarying row'.record]
  met := by
    -- a row that cannot be compiled has no nodes, and fails alike in both frames
    cases given : rows row.record with
    | fault fault => exact same
    | nodes body =>
      intro n mem
      refine ⟨path ++ [field], ?_, sideBySide⟩
      rw [rowModel]
      refine placed.row row.record ?_
      rw [given]
      exact mem

/-! ## A form of contacts -/

theorem contactForm_placed {path : List String} {m : String} {n : Form.Node}
    (h : Placed Renderer.addressBook Renderer.contactForm.nodes "contact" path m n) :
    path = [] ∧ m = "contact" ∧ (n = .input "name" .standard ∨
      n = .hasMany "phones" (fun _ => .nodes [.input "number" .standard]) .standard) ∨
    path = ["phones"] ∧ m = "phone" ∧ n = .input "number" .standard := by
  induction h with
  | top mem =>
    simp only [Renderer.contactForm, List.mem_cons, List.not_mem_nil, or_false] at mem
    exact Or.inl ⟨rfl, rfl, mem⟩
  | grouped _ _ ih =>
    rcases ih with ⟨-, -, eq | eq⟩ | ⟨-, -, eq⟩ <;> cases eq
  | action _ _ ih =>
    rcases ih with ⟨-, -, eq | eq⟩ | ⟨-, -, eq⟩ <;> cases eq
  | row _ _ mem ih =>
    rcases ih with ⟨rfl, rfl, eq | eq⟩ | ⟨-, -, eq⟩
    · cases eq
    · cases eq
      exact Or.inr ⟨rfl, by decide +kernel, List.mem_singleton.mp mem⟩
    · cases eq

end Render

end Formwright
