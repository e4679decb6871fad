import Formwright.Proofs.Render.Listeners
import Formwright.Proofs.Render.Places
import Formwright.Proofs.Render.Rows

/-!
# What a script depends on

The script of a form is made of the ids of controls and of the behaviours of fields, none of which
is escaped. It is therefore a matter of safety that no value of a record or of a submission gets
into it: two contexts for one model whose records have the same number of related records, at every
depth, have the same script.

The inputs that have a say in the script are those that are visited. Where they are is read off the
tree, the schema and the numbers of rows alone, which is shown by recursion over the tree.

- `Node.HasConstantRows`: every record has the same nodes in its row.
- `Node.sameRows`: the same number of related records at every depth.
- `Visit.Beside`, `visits_beside`: visited inputs in the same places.
- `form_script_independent`.
-/

namespace Formwright

/-! ## Rows of the same number -/

/-- The nodes of a row do not depend on its record. -/
def Form.Node.HasConstantRows : Form.Node → Prop
  | .hasMany _ rows _ => Unvarying rows
  | _ => True

/-- The related records; there are none where the field holds no records. -/
def Value.related (record : Value) (field : String) : List Value :=
  (record.field field).membersOrNone.toOption.getD []

namespace Form

mutual

/-- In every relation of the node the records have the same number of related records, and again at
every depth; those at one position are both nothing or both are not. -/
def Node.sameRows (record record' : Value) : Node → Prop
  | .input _ _ => True
  | .fieldset _ body _ => Node.allSameRows record record' body
  | .hasMany field rows _ =>
    List.Forall₂ (fun row row' => row.isNone = row'.isNone ∧ (rows row).sameRows row row')
      (record.related field) (record'.related field)
  | .actions body => Node.allSameRows record record' body
  | .content _ _ => True
  | .script _ => True

def Node.allSameRows (record record' : Value) : List Node → Prop
  | [] => True
  | n :: rest => n.sameRows record record' ∧ Node.allSameRows record record' rest

def RowForm.sameRows (record record' : Value) : RowForm → Prop
  | .nodes body => Node.allSameRows record record' body
  | .fault _ => True

end

end Form

namespace Render

open Form Html Outcome

/-- The visits are of one field with the same options, in frames of one place. -/
structure Visit.Beside (v v' : Visit) : Prop where
  place : Renderer.SamePlace v.frame v'.frame
  field : v.field = v'.field
  options : v.options = v'.options

namespace Renderer

variable {r : Renderer} {c c' : Context} {f f' : Frame}

/-! ## Listeners of visits -/

/-- A listener depends on the place of its input, and on the model of the form. -/
theorem listener_beside (model : c.modelName = c'.modelName) {v v' : Visit}
    (beside : v.Beside v') : v.listener? r c = v'.listener? r c' := by
  obtain ⟨f, field, o⟩ := v
  obtain ⟨f', field', o'⟩ := v'
  obtain ⟨⟨sameModel, sameScope, -⟩, ⟨⟩, ⟨⟩⟩ := beside
  dsimp only at sameModel sameScope
  have id : Visit.controlId r ⟨f, field, o⟩ = Visit.controlId r ⟨f', field, o⟩ := by
    simp only [Visit.controlId, sameModel, sameScope]
  have script : Visit.script? r c ⟨f, field, o⟩ = Visit.script? r c' ⟨f', field, o⟩ := by
    simp only [Visit.script?, model]
  simp only [Visit.listener?, id, script]

theorem listeners_beside (model : c.modelName = c'.modelName) {visits visits' : List Visit}
    (beside : List.Forall₂ Visit.Beside visits visits') :
    visits.filterMap (·.listener? r c) = visits'.filterMap (·.listener? r c') := by
  induction beside with
  | nil => rw [List.filterMap_nil, List.filterMap_nil]
  | cons first _ ih =>
    rw [List.filterMap_cons, List.filterMap_cons, listener_beside model first, ih]

/-! ## Visits of two records -/

/-- A relation is refused for a model, or it is read off what the record holds. -/
theorem relation_cases (r : Renderer) (model field : String) :
    (∃ e, ∀ f : Frame, f.model = model → r.relation f field = .error e) ∨
    ∃ a : Association, ∀ f : Frame, f.model = model → r.relation f field =
      (f.record.field field).membersOrNone.map fun records =>
        ⟨a.relatedModel, records, .ofOption (f.submitted? (FieldScope.rowsKey field))⟩ := by
  cases found : r.schema.association? model field with
  | error e =>
    left
    refine ⟨e, ?_⟩
    rintro f rfl
    rw [relation, found, error_bind]
  | ok assoc =>
    cases assoc with
    | none =>
      left
      refine ⟨.notHasMany field model, ?_⟩
      rintro f rfl
      rw [relation, found, ok_bind]
      rfl
    | some a =>
      by_cases many : (a.cardinality == .many) = true
      · right
        refine ⟨a, ?_⟩
        rintro f rfl
        rw [relation, found, ok_bind]
        dsimp only
        rw [if_pos many]
        cases (f.record.field field).membersOrNone <;> rfl
      · left
        refine ⟨.notHasMany field model, ?_⟩
        rintro f rfl
        rw [relation, found, ok_bind]
        dsimp only
        rw [if_neg many]
        rfl

/-- The rows of two lists of records are visited alike if they are record by record. -/
theorem rows_beside {R : Value → Value → Prop} {records records' : List Value}
    (related : List.Forall₂ R records records') {visit visit' : Value × Nat → List Visit}
    (each : ∀ i record record', R record record' →
      List.Forall₂ Visit.Beside (visit (record, i)) (visit' (record', i))) (index : Nat) :
    List.Forall₂ Visit.Beside ((records.zipIdx index).flatMap visit)
      ((records'.zipIdx index).flatMap visit') := by
  induction related generalizing index with
  | nil => exact .nil
  | cons first _ ih =>
    rw [List.zipIdx_cons, List.zipIdx_cons, List.flatMap_cons, List.flatMap_cons]
    exact List.rel_append (each index _ _ first) (ih (index + 1))

mutual

/-- The visited inputs of a node are the same for records with the same number of rows. -/
theorem visits_beside : ∀ (n : Form.Node) {f f' : Frame}, SamePlace f f' →
    n.Everywhere Node.HasConstantRows → n.sameRows f.record f'.record →
    List.Forall₂ Visit.Beside (r.visits f n) (r.visits f' n)
  | .input _ _, _, _, place, _, _ => .cons ⟨place, rfl, rfl⟩ .nil
  | .fieldset _ body _, _, _, place, constant, same =>
    visitsAll_beside body place (Node.everywhere_group constant) same
  | .actions body, _, _, place, constant, same =>
    visitsAll_beside body place (Node.everywhere_actions constant) same
  | .content _ _, _, _, _, _, _ => .nil
  | .script _, _, _, _, _, _ => .nil
  | .hasMany field rows o, f, f', place, constant, same => by
    rcases relation_cases r f.model field with ⟨e, refused⟩ | ⟨a, read⟩
    · simp only [visits, refused f rfl, refused f' place.model.symm]
      exact .nil
    · have unvarying : Unvarying rows := Node.everywhere_self constant
      -- both sides are the visits of the related records, whether they can be read or not
      have rows_of : ∀ g : Frame, g.model = f.model → ∃ rel : Relation,
          rel.related = a.relatedModel ∧
          r.visits g (.hasMany field rows o) = (g.record.related field).zipIdx.flatMap fun e =>
            if e.1.isNone then [] else r.formVisits (rowFrame rel g field e.2 e.1) (rows e.1) := by
        intro g model
        simp only [visits, read g model, Value.related]
        cases (g.record.field field).membersOrNone with
        | error e => exact ⟨⟨a.relatedModel, [], .none⟩, rfl, rfl⟩
        | ok records => exact ⟨_, rfl, rfl⟩
      obtain ⟨rel, model, left⟩ := rows_of f rfl
      obtain ⟨rel', model', right⟩ := rows_of f' place.model.symm
      rw [left, right]
      refine rows_beside same (fun i record record' related => ?_) 0
      obtain ⟨absent, sameBelow⟩ := related
      dsimp only
      rw [← absent]
      split
      · exact .nil
      · have sameForm : rows record = rows record' :=
          (unvarying record).trans (unvarying record').symm
        rw [← sameForm]
        refine formVisits_beside (rows record) ⟨?_, ?_, rfl⟩
          (Node.everywhere_rows constant record) sameBelow
        · exact model.trans model'.symm
        · exact congrArg (FieldScope.nested · field (toString i)) place.scope

theorem visitsAll_beside : ∀ (ns : List Form.Node) {f f' : Frame}, SamePlace f f' →
    (∀ n ∈ ns, n.Everywhere Node.HasConstantRows) →
    Node.allSameRows f.record f'.record ns →
    List.Forall₂ Visit.Beside (r.visitsAll f ns) (r.visitsAll f' ns)
  | [], _, _, _, _, _ => .nil
  | n :: rest, _, _, place, constant, same =>
    List.rel_append (visits_beside n place (constant n List.mem_cons_self) same.1)
      (visitsAll_beside rest place (fun m hm => constant m (List.mem_cons_of_mem n hm)) same.2)

theorem formVisits_beside : ∀ (form : RowForm) {f f' : Frame}, SamePlace f f' →
    form.Everywhere Node.HasConstantRows → form.sameRows f.record f'.record →
    List.Forall₂ Visit.Beside (r.formVisits f form) (r.formVisits f' form)
  | .nodes body, _, _, place, constant, same =>
    visitsAll_beside body place (Node.allEverywhere_iff.mp constant) same
  | .fault _, _, _, _, _, _ => .nil

end

/-- **No value reaches the script.** The script of a form is the same for any two contexts for one
model whose records have the same number of related records, at every depth. -/
theorem form_script_independent (r : Renderer) (tree : Tree) (c c' : Context)
    (constant : Node.AllEverywhere Node.HasConstantRows tree.nodes)
    (model : c.modelName = c'.modelName)
    (rows : Node.allSameRows c.record c'.record tree.nodes) (out out' : Rendered)
    (h : r.form tree c = .ok out) (h' : r.form tree c' = .ok out') : out.script = out'.script := by
  have place : SamePlace (.ofContext c) (.ofContext c') :=
    ⟨model, congrArg FieldScope.ofModel model, rfl⟩
  have visits := visitsAll_beside (r := r) tree.nodes place
    (Node.allEverywhere_iff.mp constant) rows
  obtain ⟨parts, drawn, h⟩ := bind_eq_ok.mp h
  obtain ⟨html, -, h⟩ := bind_eq_ok.mp h
  cases h
  obtain ⟨parts', drawn', h'⟩ := bind_eq_ok.mp h'
  obtain ⟨html', -, h'⟩ := bind_eq_ok.mp h'
  cases h'
  change readyScript _ = readyScript _
  rw [(nodes_shows tree.nodes drawn).listeners, (nodes_shows tree.nodes drawn').listeners,
    listeners_beside model visits]

/-- Another contact whose phones are apart, in a request that has nothing else in common. -/
def strangeContact : Context where
  record := .table [(.text "name", .text "'); steal(); ('"), (.text "phones", .list [
    .table [(.text "id", .int 7), (.text "number", .text "</script>")], .none,
    .table [(.text "carrier", .text "\n")]])]
  modelName := "contact"
  params := [("contact", .table [(.text "name", .text "\"")]), ("phones", .text "\\")]
  errors := some [("name", .text "'")]
  required := ["name"]
  today := .first
  mode := .new
  csrfToken := some "'"

theorem form_script_strangeContact :
    ∃ out out', addressBook.form livelyForm phonesApart = .ok out ∧
      addressBook.form livelyForm strangeContact = .ok out' ∧ out.script = out'.script := by
  obtain ⟨out, drawn⟩ : ∃ out, addressBook.form livelyForm phonesApart = .ok out :=
    exists_of_isOk (by decide +kernel)
  obtain ⟨out', drawn'⟩ : ∃ out', addressBook.form livelyForm strangeContact = .ok out' :=
    exists_of_isOk (by decide +kernel)
  have rows : Node.allSameRows phonesApart.record strangeContact.record livelyForm.nodes := by
    refine ⟨⟨trivial, trivial⟩, ?_, trivial⟩
    exact .cons ⟨rfl, trivial, trivial⟩ (.cons ⟨rfl, trivial, trivial⟩
      (.cons ⟨rfl, trivial, trivial⟩ .nil))
  have constant : Node.AllEverywhere Node.HasConstantRows livelyForm.nodes :=
    ⟨⟨trivial, trivial, trivial⟩, ⟨fun _ => rfl, fun _ => ⟨trivial, trivial⟩⟩, trivial⟩
  exact ⟨out, out', drawn, drawn', form_script_independent addressBook livelyForm phonesApart
    strangeContact constant rfl rows out out' drawn drawn'⟩

end Renderer

end Render

end Formwright
