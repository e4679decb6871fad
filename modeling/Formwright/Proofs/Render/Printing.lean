import Formwright.Proofs.Markup.Uniform
import Formwright.Proofs.Render.Controls
import Formwright.Render.Form

/-!
# Controls that print the index of their row

The id and the name of a control are made from the scope of its row, and with them the index of the
row is printed. Nothing else of a control depends on the index: drawn for all indices at once, a
control is markup that prints it.

- `FieldScope.Prints`: scopes that print the index.
- `scalar_uniform`, `select_uniform`, `many_uniform`: the controls.
- `input_uniform`: an input in its item.
-/

namespace Formwright

open Template

/-! ## Values of templates -/

/-- Values under names, each of the shape that a template wants. -/
abbrev ShapedValues (values : Index → List (String × Value)) : Prop :=
  Each (Keyed fun name => Fits (Shape.ofVariable name)) values

/-- Attributes that are texts. -/
abbrev LeafAttrs (attrs : Index → List (String × Value)) : Prop :=
  Each (Keyed fun _ => Fits .leaf) attrs

theorem Drawing.fill_uniform (d : Drawing) (template : String)
    {values : Index → List (String × Value)} (h : ShapedValues values) :
    Uniform PrintsAll fun i => d.fill template (values i) := by
  have shaped : ShapedScope fun i => (values i).map fun v => (v.1, .value v.2) := by
    refine h.map fun v keyed => ?_
    cases keyed with
    | entry fits => exact .entry (.value fits)
  exact d.theme.fill_uniform template shaped

theorem put_each {key : Value} {v : Index → Value} (fits : Fits .leaf v)
    {entries : Index → List (Value × Value)} (h : Each (Keyed fun _ => Fits .leaf) entries) :
    Each (Keyed fun _ => Fits .leaf) fun i => Value.put key (v i) (entries i) := by
  induction h with
  | nil => exact .entry fits .nil
  | cons first rest ih =>
    obtain @⟨other, w, fits'⟩ := first
    simp only [Value.put]
    by_cases same : Value.same other key = true
    · simp only [same, if_true]
      exact .entry fits rest
    · simp only [same]
      exact .entry fits' ih

theorem tableOf_each {entries : Index → List (Value × Value)}
    (h : Each (Keyed fun _ => Fits .leaf) entries) :
    Each (Keyed fun _ => Fits .leaf) fun i => Value.tableOf (entries i) := by
  -- the entries are put one by one into a table that is there already
  suffices onto : ∀ {table : Index → List (Value × Value)}, Each (Keyed fun _ => Fits .leaf) table →
      Each (Keyed fun _ => Fits .leaf)
        fun i => (entries i).foldl (fun table e => Value.put e.1 e.2 table) (table i) from onto .nil
  induction h with
  | nil => exact id
  | cons first _ ih =>
    intro table already
    cases first with
    | entry fits => exact ih (put_each fits already)

theorem overlay_fits {attrs : Index → List (String × Value)} (h : LeafAttrs attrs)
    (more : List (String × Value)) : Fits .table fun i => .table (overlay (attrs i) more) := by
  have given : LeafAttrs fun _ => more := Each.const fun a _ => .entry (.fixed _ a.2)
  refine .table (tableOf_each ((h.append given).map fun a keyed => ?_))
  obtain @⟨name, v, fits⟩ := keyed
  show Keyed (fun _ => Fits .leaf) fun i => (Value.text name, v i)
  exact .entry fits

/-! ## Scalar controls -/

/-- A field whose control has another id and name. -/
def Descriptor.named (d : Descriptor) (id name : String) : Descriptor :=
  { d with id := id, name := name }

section

variable (d : Descriptor) (id name : String)

@[simp] theorem Descriptor.named_id : (d.named id name).id = id := rfl

@[simp] theorem Descriptor.named_name : (d.named id name).name = name := rfl

@[simp] theorem Descriptor.named_value : (d.named id name).value = d.value := rfl

@[simp] theorem Descriptor.named_errors : (d.named id name).errors = d.errors := rfl

end

namespace Drawing

variable (d : Drawing) (desc : Descriptor) (o : FieldOptions) {id name : Index → String}

theorem withErrors_uniform {body : Index → Except Fault (List Html)}
    (h : Uniform PrintsAll body) :
    Uniform PrintsAll fun i => d.withErrors (desc.named (id i) (name i)) (body i) := by
  simp only [withErrors, Descriptor.named_errors]
  refine h.bind fun hs prints => ?_
  exact .bind_const fun errors _ => .ok (prints.append (Prints.const _))

theorem checkbox_uniform (hid : Prints id) (hname : Prints name) :
    Uniform PrintsAll fun i => d.checkbox (desc.named (id i) (name i)) o := by
  simp only [checkbox, Descriptor.named_id, Descriptor.named_name, Descriptor.named_value]
  refine d.fill_uniform _ (.entry (overlay_fits ?_ _) .nil)
  have checked : Fits .leaf fun _ => if isChecked desc.value then .text "checked" else .none :=
    .fixed _ _
  exact .entry (.fixed _ _) (.entry (.text hid) (.entry (.text hname)
    (.entry (.fixed _ _) (.entry checked .nil))))

theorem textarea_uniform (hid : Prints id) (hname : Prints name) :
    Uniform PrintsAll fun i => d.textarea (desc.named (id i) (name i)) o := by
  simp only [textarea, Descriptor.named_id, Descriptor.named_name, Descriptor.named_value]
  refine d.fill_uniform _ (.entry (overlay_fits ?_ _) (.entry (.fixed _ _) .nil))
  exact .entry (.text hid) (.entry (.text hname) (.entry (.fixed _ _) .nil))

theorem file_uniform (hid : Prints id) (hname : Prints name) :
    Uniform PrintsAll fun i => d.file (desc.named (id i) (name i)) o := by
  simp only [file, Descriptor.named_id, Descriptor.named_name, Descriptor.named_value]
  refine d.fill_uniform _ (.entry (overlay_fits ?_ _) .nil)
  exact .entry (.fixed _ _) (.entry (.text hid) (.entry (.text hname) (.entry (.fixed _ _) .nil)))

theorem input_uniform (hid : Prints id) (hname : Prints name) :
    Uniform PrintsAll fun i => d.input (desc.named (id i) (name i)) o := by
  simp only [input, Descriptor.named_id, Descriptor.named_name, Descriptor.named_value]
  refine .bind_const fun maxlength _ => d.fill_uniform _ (.entry (overlay_fits ?_ _) .nil)
  exact .entry (.fixed _ _) (.entry (.text hid) (.entry (.text hname)
    (.entry (.fixed _ _) (.entry (.fixed _ _) (.entry (.fixed _ _) .nil)))))

/-- The select of a unit as a template sees it: the unit is printed after the index. -/
theorem unit_uniform (s : Temporal.Setting) (hid : Prints id) (hname : Prints name)
    (parts : List (Temporal.Unit × Value)) (previous : Option Temporal.Unit)
    (unit : Temporal.Unit) :
    Uniform (fun sel => Fits .record fun i => selectValue (sel i)) fun i =>
      Temporal.Setting.select { s with id := id i, name := name i } parts previous unit := by
  simp only [Temporal.Setting.select]
  refine .bind_const fun choices _ => .bind_const fun current _ => .ok ?_
  have ofUnit : Prints fun i => id i ++ "_" ++ unit.name :=
    (hid.append (Prints.const _)).append (Prints.const _)
  have inUnit : Prints fun i => name i ++ "[" ++ unit.name ++ "]" :=
    ((hname.append (Prints.const _)).append (Prints.const _)).append (Prints.const _)
  simp only [selectValue]
  exact .object (.entry (.fixed _ _) (.entry (.text ofUnit) (.entry (.text inUnit)
    (.entry (.fixed _ _) (.entry (.fixed _ _) .nil)))))

theorem units_uniform (s : Temporal.Setting) (hid : Prints id) (hname : Prints name)
    (parts : List (Temporal.Unit × Value)) (previous : Option Temporal.Unit)
    (units : List Temporal.Unit) :
    Uniform (Each fun sel => Fits .record fun i => selectValue (sel i)) fun i =>
      Temporal.Setting.selectsAfter { s with id := id i, name := name i } parts previous units := by
  induction units generalizing previous with
  | nil => exact .ok .nil
  | cons unit rest ih =>
    refine (unit_uniform s hid hname parts previous unit).bind fun first fits => ?_
    exact (ih (some unit)).bind fun others members => .ok (.cons fits members)

theorem temporal_uniform (kind : Temporal.Kind) (today : Date) (hid : Prints id)
    (hname : Prints name) :
    Uniform PrintsAll fun i => d.temporal kind (desc.named (id i) (name i)) o today := by
  have selects : Uniform (Each fun sel => Fits .record fun i => selectValue (sel i)) fun i =>
      kind.selects desc.value ⟨id i, name i, o.options.map fun e => (.text e.1, e.2), today,
        d.config.yearSpan⟩ :=
    .bind_const fun parts _ =>
      units_uniform ⟨"", "", o.options.map fun e => (.text e.1, e.2), today, d.config.yearSpan⟩
        hid hname parts none (kind.units (o.options.map fun e => (.text e.1, e.2)))
  refine selects.bind fun sels members => ?_
  exact d.fill_uniform _ (.entry (.list (members.map fun _ fits => fits)) .nil)

theorem bare_uniform (kind : ControlKind) (today : Date) (hid : Prints id) (hname : Prints name) :
    Uniform PrintsAll fun i => d.bare kind (desc.named (id i) (name i)) o today := by
  cases kind with
  | boolean => exact d.checkbox_uniform desc o hid hname
  | textarea => exact d.textarea_uniform desc o hid hname
  | date => exact d.temporal_uniform desc o .date today hid hname
  | time => exact d.temporal_uniform desc o .time today hid hname
  | datetime => exact d.temporal_uniform desc o .datetime today hid hname
  | file => exact d.file_uniform desc o hid hname
  | select => exact d.input_uniform desc o hid hname
  | collection => exact d.input_uniform desc o hid hname
  | text => exact d.input_uniform desc o hid hname

theorem scalar_uniform (kind : ControlKind) (today : Date) (hid : Prints id)
    (hname : Prints name) :
    Uniform PrintsAll fun i => d.scalar kind (desc.named (id i) (name i)) o today :=
  d.withErrors_uniform desc (d.bare_uniform desc o kind today hid hname)

/-! ## Controls of collections -/

theorem select_uniform (choices : List SelectOption) (hid : Prints id) (hname : Prints name) :
    Uniform PrintsAll fun i => d.select (desc.named (id i) (name i)) choices o := by
  refine d.withErrors_uniform desc (d.fill_uniform _ (.entry (overlay_fits ?_ _)
    (.entry (.fixed _ _) (.entry (.fixed _ _) .nil))))
  exact .entry (.text hid) (.entry (.text hname) .nil)

theorem literalSelect_uniform (items : List Value) (hid : Prints id) (hname : Prints name) :
    Uniform PrintsAll fun i => d.literalSelect (desc.named (id i) (name i)) items o :=
  .bind_const (x := literalChoices desc items) fun choices _ =>
    d.select_uniform desc o choices hid hname

theorem recordSelect_uniform (items : List Value) (identity : Value → Value) (hid : Prints id)
    (hname : Prints name) :
    Uniform PrintsAll fun i => d.recordSelect (desc.named (id i) (name i)) items o identity :=
  d.select_uniform desc o (recordChoices desc items o identity) hid hname

theorem member_fits (style : CollectionStyle) (chosen : List String) (value label : String)
    (hid : Prints id) (hname : Prints name) :
    Fits .record fun i =>
      memberValue (desc.named (id i) (name i ++ "[]")) style chosen value label := by
  have ofMember : Prints fun i => id i ++ "_" ++ value :=
    (hid.append (Prints.const _)).append (Prints.const _)
  have named : Prints fun i =>
      if style == .checkBoxes then baseName (name i ++ "[]") ++ "[" ++ value ++ "]"
      else name i ++ "[]" := by
    simp only [baseName_list]
    split
    · exact ((hname.append (Prints.const _)).append (Prints.const _)).append (Prints.const _)
    · exact hname.append (Prints.const _)
  exact .object (.entry (.text ofMember) (.entry (.text named) (.entry (.fixed _ _)
    (.entry (.fixed _ _) (.entry (.fixed _ _) .nil)))))

theorem many_uniform (items : List Value) (identity : Value → Value) (selected : List Value)
    (hid : Prints id) (hname : Prints name) :
    Uniform PrintsAll fun i =>
      d.many (desc.named (id i) (name i ++ "[]")) items o identity selected := by
  refine .bind_const fun texts _ => d.withErrors_uniform desc ?_
  refine d.fill_uniform _ (.entry (.text hid) (.entry (.text (hname.append (Prints.const _)))
    (.entry (.fixed _ _) (.entry (.list ?_) .nil))))
  have same : Each Fixed fun _ => texts := Each.const fun t _ => Fixed.const t
  refine same.map fun t isSame => ?_
  obtain ⟨t, rfl⟩ := isSame
  exact member_fits desc _ _ t.1 t.2 hid hname

end Drawing

/-! ## Scopes -/

namespace FieldScope

/-- The ids and names in a scope print the index. -/
structure Prints (s : Index → FieldScope) : Prop where
  id : Formwright.Prints fun i => (s i).idPrefix
  name : Formwright.Prints fun i => (s i).namePrefix

namespace Prints

variable {s : Index → FieldScope}

theorem elementId (h : Prints s) (key : String) : Formwright.Prints fun i => (s i).elementId key :=
  (h.id.append (.const _)).append (.const _)

theorem elementName (h : Prints s) (key : String) :
    Formwright.Prints fun i => (s i).elementName key :=
  ((h.name.append (.const _)).append (.const _)).append (.const _)

theorem nested (h : Prints s) (relation : String) {index : Index → String}
    (printed : Formwright.Prints index) : Prints fun i => (s i).nested relation (index i) where
  id := (((h.id.append (.const _)).append (.const _)).append (.const _)).append printed
  name := ((((h.name.append (.const _)).append (.const _)).append (.const _)).append
    printed).append (.const _)

theorem const (s : FieldScope) : Prints fun _ => s := ⟨.const _, .const _⟩

end Prints

end FieldScope

namespace Render

/-- The same record in another scope. -/
def Frame.within (f : Frame) (s : FieldScope) : Frame := { f with scope := s }

/-- A control that prints the index. -/
inductive Shown.Prints : (Index → Renderer.Shown) → Prop where
  | control (desc : Descriptor) {id name : Index → String} {html : Index → List Html}
    (hid : Formwright.Prints id) (hname : Formwright.Prints name) (h : PrintsAll html) :
    Shown.Prints fun i => ⟨desc.named (id i) (name i), html i⟩

namespace Renderer

variable (r : Renderer) (c : Context) (f : Frame) (field : String) (o : FieldOptions)
  {s : Index → FieldScope}

/-- What is shown of a field depends on the scope by its id and name only. -/
theorem describe_within (key : String) (scope : FieldScope) :
    r.describe c (f.within scope) field key o =
      (fun desc => desc.named (scope.elementId key) (scope.elementName key)) <$>
        r.describe c f field key o := by
  show (r.errorsOf c f field >>= fun errors => _) = _ <$> (r.errorsOf c f field >>= fun errors => _)
  cases r.errorsOf c f field with
  | error e => rfl
  | ok errors => rfl

/-- What follows on the description of a field is built alike if it is for every id and name that
print the index. -/
theorem describe_uniform {α : Type} {R : (Index → α) → Prop} (key : String)
    {next : Index → Descriptor → Except Fault α}
    (h : ∀ desc : Descriptor, Uniform R fun i =>
      next i (desc.named ((s i).elementId key) ((s i).elementName key))) :
    Uniform R fun i => r.describe c (f.within (s i)) field key o >>= next i := by
  simp only [describe_within, map_eq_pure_bind, bind_assoc, pure_bind]
  exact .bind_const fun desc _ => h desc

theorem scalarControl_uniform (kind : ControlKind) (h : FieldScope.Prints s) :
    Uniform Shown.Prints fun i => r.scalarControl c (f.within (s i)) field o kind := by
  refine r.describe_uniform c f field o field fun desc => ?_
  refine (r.drawing.scalar_uniform desc o kind c.today (h.elementId field)
    (h.elementName field)).bind fun html prints => .ok ?_
  exact .control desc (h.elementId field) (h.elementName field) prints

theorem manyControl_uniform (items : List Value) (h : FieldScope.Prints s) :
    Uniform Shown.Prints fun i => r.manyControl c (f.within (s i)) field o items := by
  have hid := h.elementId (idsKey field)
  have hname := h.elementName (idsKey field)
  refine r.describe_uniform c f field o (idsKey field) fun desc => ?_
  refine .bind_const (x := r.selectedIds f field) fun selected _ => ?_
  refine (r.drawing.many_uniform desc o items r.schema.identity selected hid hname).bind
    fun html prints => .ok ?_
  exact .control desc hid (hname.append (.const _)) prints

theorem singleControl_uniform (items : List Value) (key : String) (h : FieldScope.Prints s) :
    Uniform Shown.Prints fun i => r.singleControl c (f.within (s i)) field o items key := by
  have hid := h.elementId key
  have hname := h.elementName key
  refine r.describe_uniform c f field o key fun desc => ?_
  split
  · exact (r.drawing.literalSelect_uniform desc o items hid hname).bind fun html prints =>
      .ok (.control desc hid hname prints)
  · exact (r.drawing.recordSelect_uniform desc o items r.schema.identity hid hname).bind
      fun html prints => .ok (.control desc hid hname prints)

theorem association_uniform (h : FieldScope.Prints s) :
    Uniform (fun x => Shown.Prints fun i => (x i).1)
      fun i => r.association c (f.within (s i)) field o := by
  refine .bind_const (x := r.itemsOf o.collection c f.record) fun given _ => ?_
  refine .bind_const (x := r.schema.association? f.model field) fun assoc _ => ?_
  split
  · exact (r.manyControl_uniform c f field o given.1 h).bind fun shown prints => .ok prints
  · exact (r.singleControl_uniform c f field o given.1 _ h).bind fun shown prints => .ok prints

theorem control_uniform (type : ScalarType) (h : FieldScope.Prints s) :
    Uniform (fun x => (Shown.Prints fun i => (x i).1) ∧ Fixed fun i => (x i).2.1)
      fun i => r.control c (f.within (s i)) field o type := by
  unfold control
  split
  · exact (r.association_uniform c f field o h).bind fun x prints => .ok ⟨prints, .const _⟩
  · exact (r.scalarControl_uniform c f field o _ h).bind fun shown prints =>
      .ok ⟨prints, .const _⟩

theorem item_uniform (kind : String) {shown : Index → Shown} (prints : Shown.Prints shown)
    (h : FieldScope.Prints s) :
    Uniform PrintsAll fun i => r.item (f.within (s i)) field o kind (shown i) := by
  cases prints with
  | control desc hid hname prints =>
    have css : Binds .leaf fun _ => .value (.text (itemClass kind desc)) := .value (.fixed _ _)
    have label : Binds .leaf fun _ => .value (.ofText? desc.label) := .value (.fixed _ _)
    have required : Binds .leaf fun _ => .value (.bool desc.required) := .value (.fixed _ _)
    have visible : Binds .leaf fun _ => .value (.bool desc.visible) := .value (.fixed _ _)
    exact r.drawing.theme.fill_uniform _ (.entry css
      (.entry (.value (.text (h.elementId field))) (.entry (.value (.text hid)) (.entry label
        (.entry required (.entry visible (.entry (.value (.fixed _ _))
          (.entry (.fragment prints) .nil))))))))

/-- **Inputs print.** An input is drawn alike for every index. -/
theorem input_uniform (h : FieldScope.Prints s) :
    Uniform (fun out => PrintsAll fun i => (out i).html)
      fun i => r.input c (f.within (s i)) field o := by
  refine .bind_const (x := r.schema.fieldType f.model field) fun type _ => ?_
  refine (r.control_uniform c f field o _ h).bind fun x prints => ?_
  obtain ⟨prints, kind, same⟩ := prints
  simp only [congrFun same]
  exact (r.item_uniform f field o kind prints h).bind fun html prints => .ok prints

end Renderer

end Render

end Formwright
