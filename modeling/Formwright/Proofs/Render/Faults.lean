import Formwright.Proofs.Render.Failing
import Formwright.Proofs.Render.Noninterference
import Formwright.Proofs.Render.Showable

/-!
# Faults of a form that is drawn

What a form that is drawn with the built-in templates can fail for, input by input. Names that are
not known, relations that are no has-many associations and rows that cannot be compiled are faults
anywhere; the other faults are those of the controls, and what is said of these for every input that
is drawn holds of the whole form.

- `Renderer.Plain`: the templates are the built-in ones, and all errors can be shown.
- `input_failsWith`: an input fails as its control does.
- `EveryInput`, `node_failsWith`: a node fails as the inputs in it do.
-/

namespace Formwright

open Form Outcome Template

namespace Render.Renderer

variable {r : Renderer} {c : Context} {f : Frame} {field : String} {o : FieldOptions}

/-! ## Inputs -/

theorem describe_shows (shows : r.drawing.showsErrorsOf c = true) {key : String} {desc : Descriptor}
    (h : r.describe c f field key o = .ok desc) : r.drawing.ShowsErrors desc.errors := by
  obtain ⟨errors, found, h⟩ := bind_eq_ok.mp h
  cases h
  unfold errorsOf at found
  split at found
  · obtain ⟨key, -, rfl⟩ := exceptMap_eq_ok.mp found
    exact Drawing.showsErrors_select shows key
  · cases found
    simp [Drawing.ShowsErrors]

/-- The templates are the built-in ones, and what they are given of the configuration and the
context can be written. -/
structure Plain (r : Renderer) (c : Context) : Prop where
  standard : r.drawing.theme = .standard
  length : (writtenNumeral r.drawing.config.textMaxlength).isOk = true
  shows : r.drawing.showsErrorsOf c = true

section

variable {P : Fault → Prop} (unknown : ∀ e : Fault, e.isUnknown = true → P e)
include unknown

theorem describe_fails (key : String) : FailsWith P (r.describe c f field key o) := by
  have errors : FailsWith P (r.errorsOf c f field) := by
    unfold errorsOf
    split
    · exact ((r.schema.storageKey_unknown f.model field).mono unknown).map
    · exact .ok _
  exact errors.thenReturn

theorem manyControl_fails (plain : r.Plain c) (chosen : (r.selectedIds f field).isOk = true)
    (items : List Value) : FailsWith P (r.manyControl c f field o items) := by
  refine (describe_fails unknown (idsKey field)).bind fun desc described => ?_
  refine (FailsWith.of_total (exists_of_isOk chosen)).bind fun selected _ => ?_
  have shows : r.drawing.ShowsErrors desc.errors := describe_shows plain.shows described
  refine (FailsWith.of_total ?_).thenReturn
  apply Drawing.many_total plain.standard
  exact shows

theorem singleControl_fails (plain : r.Plain c)
    (select : ∀ desc choices, r.drawing.ShowsErrors desc.errors →
      FailsWith P (r.drawing.select desc choices o))
    (items : List Value) (key : String) :
    FailsWith P (r.singleControl c f field o items key) := by
  refine (describe_fails unknown key).bind fun desc described => ?_
  have shows := describe_shows plain.shows described
  split
  · rename_i literal
    have literalSelect : FailsWith P (r.drawing.literalSelect desc items o) :=
      (FailsWith.of_total (Drawing.literalChoices_total literal)).bind fun choices _ =>
        select desc choices shows
    exact literalSelect.thenReturn
  · exact (select desc _ shows).thenReturn

theorem association_fails (plain : r.Plain c) (chosen : o.collection.isSome = true)
    (listed : (r.itemsOf o.collection c f.record).isOk = true)
    (members : r.picksMany f.model field o = true → (r.selectedIds f field).isOk = true)
    (select : r.picksMany f.model field o = false → ∀ desc choices,
      r.drawing.ShowsErrors desc.errors → FailsWith P (r.drawing.select desc choices o)) :
    FailsWith P (r.association c f field o) := by
  refine (FailsWith.of_total (exists_of_isOk listed)).bind fun items _ => ?_
  refine ((r.schema.association?_unknown f.model field).mono unknown).bind fun assoc found => ?_
  split
  · rename_i many
    have picks : r.picksMany f.model field o = true := by
      simp [picksMany, chosen, assoc?_of_ok found, many]
    exact (manyControl_fails unknown plain (members picks) _).thenReturn
  · rename_i single
    have picks : r.picksMany f.model field o = false := by
      simp [picksMany, assoc?_of_ok found, single]
    exact (singleControl_fails unknown plain (select picks) _ _).thenReturn

theorem scalarControl_fails (plain : r.Plain c) {kind : ControlKind}
    (bare : ∀ desc : Descriptor, desc.value = f.value field →
      FailsWith P (r.drawing.bare kind desc o c.today)) :
    FailsWith P (r.scalarControl c f field o kind) := by
  refine (describe_fails unknown field).bind fun desc described => ?_
  have value : desc.value = f.value field := by
    obtain ⟨errors, -, made⟩ := bind_eq_ok.mp described
    cases made
    rfl
  have scalar : FailsWith P (r.drawing.scalar kind desc o c.today) :=
    Drawing.withErrors_fails (describe_shows plain.shows described) (bare desc value)
  exact scalar.thenReturn

/-- An input that is drawn with the built-in templates fails for a name that is not known, or as its
control does. -/
theorem input_failsWith (plain : r.Plain c)
    (listed : (r.itemsOf o.collection c f.record).isOk = true)
    (members : r.picksMany f.model field o = true → (r.selectedIds f field).isOk = true)
    (select : o.collection.isSome = true → r.picksMany f.model field o = false →
      ∀ desc choices, r.drawing.ShowsErrors desc.errors →
        FailsWith P (r.drawing.select desc choices o))
    (bare : ∀ kind, r.kind? f.model field o = some kind → ∀ desc : Descriptor,
      desc.value = f.value field → FailsWith P (r.drawing.bare kind desc o c.today)) :
    FailsWith P (r.input c f field o) := by
  refine ((r.schema.fieldType_unknown f.model field).mono unknown).bind fun type typed => ?_
  have control : FailsWith P (r.control c f field o (.ofDeclared type)) := by
    unfold Renderer.control
    split
    · rename_i chosen
      exact (association_fails unknown plain chosen listed members (select chosen)).thenReturn
    · rename_i unchosen
      have kind : r.kind? f.model field o = some (.resolve (.ofDeclared type) o false) := by
        rw [kind?, if_neg unchosen, typed]
        rfl
      exact (scalarControl_fails unknown plain (bare _ kind)).thenReturn
  refine control.bind fun shown _ => ?_
  have item : ∃ html, r.item f field o shown.2.1 shown.1 = .ok html := by
    unfold Renderer.item
    rw [plain.standard]
    exact Theme.standard_sure "form/item.html" BuiltIn.item (by simp [Template.builtIn]) rfl
      (.of_free rfl)
  exact (FailsWith.of_total item).thenReturn

end

/-! ## Relations -/

theorem related_of_relation {f : Frame} {field : String} {rel : Relation}
    (found : r.relation f field = .ok rel) : f.record.related field = rel.records := by
  rw [Value.related, (relation_inv found).2.1]
  rfl

/-- A relation that is no has-many association is refused, whatever the record is. -/
theorem relation_refused (r : Renderer) {model field : String}
    (single : ¬isMany (r.assoc? model field) = true) :
    ∃ e : Fault, (e.isUnknown = true ∨ e = .notHasMany field model) ∧
      ∀ f : Frame, f.model = model → r.relation f field = .error e := by
  cases found : r.schema.association? model field with
  | error e =>
    refine ⟨e, .inl (r.schema.association?_unknown model field e found), ?_⟩
    rintro f rfl
    rw [relation, found, error_bind]
  | ok assoc =>
    rw [assoc?_of_ok found] at single
    refine ⟨.notHasMany field model, .inr rfl, ?_⟩
    rintro f rfl
    rw [relation, found, ok_bind]
    cases assoc with
    | none => rfl
    | some a =>
      have one : ¬(a.cardinality == .many) = true := single
      dsimp only
      rw [if_neg one]
      rfl

theorem isMany_of_relation {f : Frame} {field : String} {rel : Relation}
    (found : r.relation f field = .ok rel) : isMany (r.assoc? f.model field) = true := by
  by_contra single
  obtain ⟨e, -, refused⟩ := relation_refused r single
  rw [refused f rfl] at found
  cases found

section

variable {P : Fault → Prop} (unknown : ∀ e : Fault, e.isUnknown = true → P e)
include unknown

theorem relation_failsWith (single : P (.notHasMany field f.model))
    (listed : isMany (r.assoc? f.model field) = true →
      (f.record.field field).membersOrNone.isOk = true) : FailsWith P (r.relation f field) := by
  by_cases many : isMany (r.assoc? f.model field) = true
  · refine ((r.schema.association?_unknown f.model field).mono unknown).bind fun assoc _ => ?_
    split
    · split
      · exact (FailsWith.of_total (exists_of_isOk (listed many))).thenReturn
      · exact .error single
    · exact .error single
  · obtain ⟨e, reason, refused⟩ := relation_refused r many
    rw [refused f rfl]
    rcases reason with isUnknown | rfl
    · exact .error (unknown e isUnknown)
    · exact .error single

end

theorem drawRows_failsWith {P : Fault → Prop} {draw : Nat → Value → Except Fault Output}
    {records : List Value} (index : Nat)
    (each : ∀ i record, records[i]? = some record → FailsWith P (draw (index + i) record)) :
    FailsWith P (drawRows draw index records) := by
  induction records generalizing index with
  | nil => exact .ok _
  | cons record rest ih =>
    refine (each 0 record rfl).bind fun _ _ => ?_
    refine (ih (index + 1) fun i other found => ?_).thenReturn
    rw [Nat.add_assoc, Nat.add_comm 1 i]
    exact each (i + 1) other found

/-! ## Nodes -/

mutual

/-- Something holds of every input that may be drawn for a frame, and the record has lists where the
rows of relations are drawn. -/
def EveryInput (r : Renderer) (Q : Frame → String → FieldOptions → Prop) (f : Frame) :
    Form.Node → Prop
  | .input field o => Q f field o
  | .fieldset _ body _ => EveryInputOf r Q f body
  | .hasMany field rows _ =>
    (isMany (r.assoc? f.model field) = true → (f.record.field field).membersOrNone.isOk = true) ∧
    ∀ rel, r.relation f field = .ok rel →
      (∀ i record, rel.records[i]? = some record →
        EveryInputIn r Q (rowFrame rel f field i record) (rows record)) ∧
      EveryInputIn r Q (templateFrame rel f field) (rows .none)
  | .actions body => EveryInputOf r Q f body
  | .content _ _ => True
  | .script _ => True

def EveryInputOf (r : Renderer) (Q : Frame → String → FieldOptions → Prop) (f : Frame) :
    List Form.Node → Prop
  | [] => True
  | n :: rest => EveryInput r Q f n ∧ EveryInputOf r Q f rest

def EveryInputIn (r : Renderer) (Q : Frame → String → FieldOptions → Prop) (f : Frame) :
    RowForm → Prop
  | .nodes body => EveryInputOf r Q f body
  | .fault _ => True

end

/-- A predicate of faults holds of those that are found anywhere in a form. -/
structure Covering (P : Fault → Prop) : Prop where
  unknown : ∀ e : Fault, e.isUnknown = true → P e
  single : ∀ relation model, P (.notHasMany relation model)
  compiled : ∀ resource path cause, P (.form resource path cause)

/-- The parts of a form in which every node has the property `p` and every input the property `Q`
fail with the built-in templates as `P` says, if they fail at all. -/
structure PartsFail (r : Renderer) (draw : Drawer) (p : Form.Node → Prop)
    (Q : Frame → String → FieldOptions → Prop) (P : Fault → Prop) : Prop where
  standard : r.drawing.theme = .standard
  covering : Covering P
  located : ∀ {field rows o}, p (.hasMany field rows o) →
    ∀ record, (rows record).isLocated = true
  inputs : ∀ {f field o}, p (.input field o) → Q f field o → FailsWith P (draw f field o)

section

variable {P : Fault → Prop} {p : Form.Node → Prop} {Q : Frame → String → FieldOptions → Prop}
  {draw : Drawer}

mutual

/-- **A node** that is drawn with the built-in templates fails as the inputs in it do. -/
theorem node_failsWith (parts : r.PartsFail draw p Q P) (c : Context) : ∀ (n : Form.Node) {f : Frame}, n.Everywhere p →
    r.EveryInput Q f n → FailsWith P (r.node draw c f n)
  | .input field o, f, has, every => by
    simp only [Renderer.node]
    exact parts.inputs has every
  | .fieldset label body o, f, has, every => by
    simp only [Renderer.node]
    obtain ⟨around, -, drawn⟩ := fieldset_drawn parts.standard c label o
    refine (nodes_failsWith parts c body has.2 every).bind fun _ _ => ?_
    exact .of_total ⟨_, drawn _⟩
  | .actions body, f, has, every => by
    simp only [Renderer.node]
    obtain ⟨around, -, drawn⟩ := actions_drawn parts.standard
    refine (nodes_failsWith parts c body has.2 every).bind fun _ _ => ?_
    exact .of_total ⟨_, drawn _⟩
  | .content _ _, f, _, _ => by
    simp only [Renderer.node]
    exact .ok _
  | .script s, f, _, _ => by
    simp only [Renderer.node, Renderer.script, parts.standard]
    refine (FailsWith.of_total ?_).map
    exact Theme.standard_sure "form/script.html" BuiltIn.script (by simp [Template.builtIn]) rfl
      (.of_free rfl)
  | .hasMany field rows o, f, ⟨own, below⟩, ⟨listed, every⟩ => by
    simp only [Renderer.node]
    refine (relation_failsWith parts.covering.unknown (parts.covering.single _ _) listed).bind
      fun rel found => ?_
    obtain ⟨each, template⟩ := every rel found
    refine (drawRows_failsWith 0 fun i record at_i => ?_).bind fun drawn _ => ?_
    · rw [Nat.zero_add]
      obtain ⟨around, -, drawn⟩ := row_drawn parts.standard (rowFrame rel f field i record) field
      refine (rowForm_failsWith parts c (rows record) (parts.located own record) (below record)
        (each i record at_i)).bind fun body _ => ?_
      exact .of_total ⟨_, drawn body⟩
    · obtain ⟨around, -, drawnTemplate⟩ :=
        templateRow_drawn parts.standard (templateFrame rel f field) field
      refine (rowForm_failsWith parts c (rows .none) (parts.located own .none) (below .none)
        template).bind fun body _ => ?_
      rw [drawnTemplate, ok_bind, hasMany_drawn parts.standard]
      exact .ok _

theorem nodes_failsWith (parts : r.PartsFail draw p Q P) (c : Context) : ∀ (ns : List Form.Node) {f : Frame}, Node.AllEverywhere p ns →
    r.EveryInputOf Q f ns → FailsWith P (r.nodes draw c f ns)
  | [], f, _, _ => by
    simp only [Renderer.nodes]
    exact .ok _
  | n :: rest, f, has, ⟨first, others⟩ => by
    simp only [Renderer.nodes]
    refine (node_failsWith parts c n has.1 first).bind fun _ _ => ?_
    exact (nodes_failsWith parts c rest has.2 others).thenReturn

theorem rowForm_failsWith (parts : r.PartsFail draw p Q P) (c : Context) :
    ∀ (form : RowForm) {f : Frame}, form.isLocated = true → form.Everywhere p →
    r.EveryInputIn Q f form → FailsWith P (r.rowForm draw c f form)
  | .nodes body, f, _, has, every => by
    simp only [Renderer.rowForm]
    exact (nodes_failsWith parts c body has every).thenReturn
  | .fault (.located path cause), f, _, _, _ => by
    simp only [Renderer.rowForm]
    exact .error (parts.covering.compiled _ _ _)
  | .fault (.other _), _, isLocated, _, _ => nomatch isLocated

end

end

/-- **A form** that is drawn with the built-in templates fails as the inputs in it do. -/
theorem form_failsWith {P : Fault → Prop} {p : Form.Node → Prop}
    {Q : Frame → String → FieldOptions → Prop} {tree : Tree} (c : Context)
    (parts : r.PartsFail (r.input c) p Q P) (has : Node.AllEverywhere p tree.nodes)
    (every : r.EveryInputOf Q (.ofContext c) tree.nodes) : FailsWith P (r.form tree c) := by
  refine (nodes_failsWith parts c tree.nodes has every).bind fun drawn _ => ?_
  obtain ⟨before, -, filled⟩ := form_drawn c.csrfToken (c.mode == .edit)
  simp only [parts.standard, filled]
  exact .ok _

end Render.Renderer

end Formwright
