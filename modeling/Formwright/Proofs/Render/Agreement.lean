import Formwright.Proofs.Outcome
import Formwright.Render.Form

/-!
# Renderers that agree

All that a form takes from its renderer are the types, the associations and the identities that the
schema gives, the built-in templates as the theme fills them, the settings, and the functions that
came with the form. Renderers that agree in these draw every form alike, however else they differ.

- `Schema.Agree`, `Drawing.Agree`, `Renderer.Agree`: agreement.
- `Drawing.Agree.bare`, `Drawing.Agree.many`, …: controls.
- `Renderer.Agree.input`, `Renderer.Agree.node`: parts of a form.
- `Renderer.Agree.form`: whole forms.
-/

namespace Formwright

open Outcome

/-- The schemas say the same of fields and records. -/
structure Schema.Agree (s s' : Schema) : Prop where
  fieldType : ∀ model field, s.fieldType model field = s'.fieldType model field
  association? : ∀ model field, s.association? model field = s'.association? model field
  identity : ∀ record, s.identity record = s'.identity record

/-- The drawings have the same settings, and their themes fill the built-in templates alike. -/
structure Drawing.Agree (d d' : Drawing) : Prop where
  config : d.config = d'.config
  fill : ∀ name ∈ Template.builtIn.map (·.1), ∀ scope,
    d.theme.fill name scope = d'.theme.fill name scope

theorem Schema.Agree.refl (s : Schema) : s.Agree s := ⟨fun _ _ => rfl, fun _ _ => rfl, fun _ => rfl⟩

/-! ## Controls -/

namespace Drawing

variable {d d' : Drawing} {desc : Descriptor} {o : FieldOptions}

namespace Agree

theorem refl (d : Drawing) : d.Agree d := ⟨rfl, fun _ _ _ => rfl⟩

theorem filled (same : d.Agree d') {template : String}
    (listed : template ∈ Template.builtIn.map (·.1)) (values : List (String × Value)) :
    d.fill template values = d'.fill template values := same.fill template listed _

theorem withErrors (same : d.Agree d') {body body' : Except Fault (List Html)}
    (alike : body = body') : d.withErrors desc body = d'.withErrors desc body' := by
  have errors : d.errors desc.errors = d'.errors desc.errors := by
    unfold Drawing.errors
    split
    · rfl
    · rfl
    · exact same.filled (by decide) _
  rw [Drawing.withErrors, Drawing.withErrors, alike, errors]

theorem temporal (same : d.Agree d') (kind : Temporal.Kind) (today : Date) :
    d.temporal kind desc o today = d'.temporal kind desc o today := by
  unfold Drawing.temporal
  rw [same.config]
  exact bind_congr fun selects => same.filled (by decide) _

theorem input (same : d.Agree d') : d.input desc o = d'.input desc o := by
  unfold Drawing.input
  rw [same.config]
  exact bind_congr fun maxlength => same.filled (by decide) _

theorem bare (same : d.Agree d') (kind : ControlKind) (today : Date) :
    d.bare kind desc o today = d'.bare kind desc o today := by
  cases kind with
  | boolean => exact same.filled (by decide) _
  | textarea => exact same.filled (by decide) _
  | date => exact same.temporal .date today
  | time => exact same.temporal .time today
  | datetime => exact same.temporal .datetime today
  | file => exact same.filled (by decide) _
  | select => exact same.input
  | collection => exact same.input
  | text => exact same.input

theorem scalar (same : d.Agree d') (kind : ControlKind) (today : Date) :
    d.scalar kind desc o today = d'.scalar kind desc o today :=
  same.withErrors (same.bare kind today)

theorem select (same : d.Agree d') (choices : List SelectOption) :
    d.select desc choices o = d'.select desc choices o :=
  same.withErrors (same.filled (by decide) _)

theorem literalSelect (same : d.Agree d') (items : List Value) :
    d.literalSelect desc items o = d'.literalSelect desc items o :=
  bind_congr fun choices => same.select choices

theorem recordSelect (same : d.Agree d') (items : List Value) (identity : Value → Value) :
    d.recordSelect desc items o identity = d'.recordSelect desc items o identity :=
  same.select _

theorem many (same : d.Agree d') (items : List Value) (identity : Value → Value)
    (selected : List Value) :
    d.many desc items o identity selected = d'.many desc items o identity selected :=
  bind_congr fun texts => same.withErrors (same.filled (by decide) _)

end Agree

end Drawing

namespace Render

open Form

/-- The renderers agree in all that a form takes from them. -/
structure Renderer.Agree (r r' : Renderer) : Prop where
  schema : r.schema.Agree r'.schema
  drawing : r.drawing.Agree r'.drawing
  functions : r.functions = r'.functions

namespace Renderer.Agree

variable {r r' : Renderer} {c : Context} {f : Frame} {field : String} {o : FieldOptions}

theorem identity (same : r.Agree r') : r.schema.identity = r'.schema.identity :=
  funext same.schema.identity

/-! ## Inputs -/

theorem describe (same : r.Agree r') (key : String) :
    r.describe c f field key o = r'.describe c f field key o := by
  unfold Renderer.describe errorsOf Schema.storageKey
  rw [same.schema.association?]

theorem selectedIds (same : r.Agree r') : r.selectedIds f field = r'.selectedIds f field := by
  unfold Renderer.selectedIds
  rw [same.identity]

theorem manyControl (same : r.Agree r') (items : List Value) :
    r.manyControl c f field o items = r'.manyControl c f field o items := by
  unfold Renderer.manyControl
  rw [same.describe, same.selectedIds, same.identity]
  simp only [same.drawing.many]

theorem singleControl (same : r.Agree r') (items : List Value) (key : String) :
    r.singleControl c f field o items key = r'.singleControl c f field o items key := by
  unfold Renderer.singleControl
  rw [same.describe, same.identity]
  simp only [same.drawing.literalSelect, same.drawing.recordSelect]

theorem itemsOf (same : r.Agree r') (record : Value) :
    r.itemsOf o.collection c record = r'.itemsOf o.collection c record := by
  have resolver : r.resolver = r'.resolver := by
    funext source
    cases source with
    | function name => exact congrFun same.functions name
    | related model records => rfl
  unfold Renderer.itemsOf Renderer.call
  rw [resolver]

theorem control (same : r.Agree r') (type : ScalarType) :
    r.control c f field o type = r'.control c f field o type := by
  unfold Renderer.control association scalarControl
  simp only [same.itemsOf, same.schema.association?, same.manyControl, same.singleControl, same.describe,
    same.drawing.scalar]

theorem item (same : r.Agree r') (kind : String) (shown : Shown) :
    r.item f field o kind shown = r'.item f field o kind shown :=
  same.drawing.fill "form/item.html" (by decide) _

theorem input (same : r.Agree r') : r.input c f field o = r'.input c f field o := by
  unfold Renderer.input listenersOf
  simp only [same.schema.fieldType, same.control, same.item, same.drawing.config]

/-! ## Around inputs -/

theorem fieldset (same : r.Agree r') (label : String) (body : Output) :
    r.fieldset c label o body = r'.fieldset c label o body := by
  simp only [Renderer.fieldset, same.drawing.fill "form/fieldset.html" (by decide)]

theorem actions (same : r.Agree r') (body : Output) : r.actions body = r'.actions body := by
  simp only [Renderer.actions, same.drawing.fill "form/actions.html" (by decide)]

theorem script (same : r.Agree r') (script : String) : r.script script = r'.script script := by
  simp only [Renderer.script, same.drawing.fill "form/script.html" (by decide)]

theorem relation (same : r.Agree r') : r.relation f field = r'.relation f field := by
  unfold Renderer.relation
  rw [same.schema.association?]

theorem row (same : r.Agree r') (row : Frame) (body : Output) :
    r.row row field body = r'.row row field body := by
  simp only [Renderer.row, same.identity,
    same.drawing.fill "form/has_many_fieldset.html" (by decide)]

theorem templateRow (same : r.Agree r') (row : Frame) (body : Output) :
    r.templateRow row field body = r'.templateRow row field body := by
  simp only [Renderer.templateRow, same.drawing.fill "form/has_many_fieldset.html" (by decide)]

theorem hasMany (same : r.Agree r') (rows : List Output) (template : Output) :
    r.hasMany f field rows template = r'.hasMany f field rows template := by
  simp only [Renderer.hasMany, same.drawing.fill "form/has_many.html" (by decide)]

/-! ## Forms -/

section Walk

variable {draw : Drawer}

mutual

theorem node (same : r.Agree r') : ∀ (n : Form.Node) (f : Frame),
    r.node draw c f n = r'.node draw c f n
  | .input field o, f => by simp only [Renderer.node]
  | .fieldset label body o, f => by
    simp only [Renderer.node, same.nodes body f, same.fieldset]
  | .hasMany field rows o, f => by
    simp only [Renderer.node, same.relation, fun record row => same.rowForm (rows record) row,
      same.row, same.templateRow, same.hasMany]
  | .actions body, f => by simp only [Renderer.node, same.nodes body f, same.actions]
  | .content content isMarkup, f => by simp only [Renderer.node]
  | .script script, f => by simp only [Renderer.node, same.script]

theorem nodes (same : r.Agree r') : ∀ (ns : List Form.Node) (f : Frame),
    r.nodes draw c f ns = r'.nodes draw c f ns
  | [], f => by simp only [Renderer.nodes]
  | n :: rest, f => by simp only [Renderer.nodes, same.node n f, same.nodes rest f]

theorem rowForm (same : r.Agree r') : ∀ (form : RowForm) (f : Frame),
    r.rowForm draw c f form = r'.rowForm draw c f form
  | .nodes body, f => by simp only [Renderer.rowForm, same.nodes body f]
  | .fault fault, f => by simp only [Renderer.rowForm]

end

end Walk

/-- **Renderers that agree draw every form alike**, or fail with the same fault. -/
theorem form (same : r.Agree r') (tree : Tree) (c : Context) : r.form tree c = r'.form tree c := by
  have inputs : r.input c = r'.input c := by
    funext f field o
    exact same.input
  unfold Renderer.form formBy
  simp only [inputs, same.nodes, same.drawing.fill "form/form.html" (by decide)]

end Renderer.Agree

end Render

end Formwright
