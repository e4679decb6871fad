import Formwright.Proofs.Form.Default
import Formwright.Proofs.Render.Calls
import Formwright.Proofs.Render.Lookups
import Formwright.Proofs.Render.ScalarControls
import Formwright.Proofs.Render.Showable
import Formwright.Proofs.Render.Verdict

/-!
# Default forms as they are drawn

The default form of a model covers every field that is not excluded, once and in order, whatever the
schema is like: fields that only end in `_id`, associations of another cardinality or owner key, and
fields with the name of an association all have controls of their own names. Every name the form
mentions is known, so it never fails for a lookup; and it is drawn for every record whose dates and
times have a shape that is known and finite parts, as long as whatever is shown can be written.

- `itemNames`, `IsItemOf`: the item of a field.
- `Renderer.Covers`: what a default form is drawn as.
- `Renderer.CanDraw`, `Renderer.ShowsInfinite`: when it is drawn, and when it is not.
- `Renderer.default_item`, `Renderer.default_total`: one input.
- `Renderer.default_form`: the default form of a model; `default_form_stops`: a part that is infinite,
  and an error without a sentence.
-/

namespace Formwright.Render

open Form Html Outcome Template

/-! ## The item of a field -/

/-- The kind of the control of a field without options. -/
def fieldKind (m : Model) (field : String) : ControlKind :=
  .ofScalar (.ofDeclared ((m.fieldType field).toOption.getD ""))

/-- The name of the control of a field. -/
def controlName (model field : String) : String := model ++ "[" ++ field ++ "]"

/-- The names of the controls of a field, in order: one for the select of an association that it
stores, and those of its kind otherwise. -/
def itemNames (m : Model) (model field : String) : List String :=
  match storedAssociation? m field with
  | some _ => [controlName model field]
  | none => (fieldKind m field).controlNames [] (controlName model field)

/-- The markup is the item of a field: its controls have the names of the field's controls, and an
association is chosen with a select. -/
structure IsItemOf (m : Model) (model field : String) (item : Html) : Prop where
  isItem : ∃ attrs body, item = .element "li" attrs body
  names : (controlsAll [item]).map (·.name?) = (itemNames m model field).map some
  select : (storedAssociation? m field).isSome = true →
    ∃ attrs body, controlsAll [item] = [Html.element "select" attrs body]

/-- A group of items without a label. -/
def groupMarkup (items : List Html) : Html :=
  .element "fieldset" [⟨.text "class", [.text "inputs"]⟩] [
    lineFeed,
    .element "ol" [] (lineFeed :: joinLines (items.map List.singleton) ++ [lineFeed]),
    lineFeed]

/-- The models whose records are loaded, one for every association, in order. -/
def loadedModels (m : Model) (loader : Option Loader) (excluded : List String) : List String :=
  (shownFields m loader excluded).filterMap fun field =>
    (storedAssociation? m field).map (·.relatedModel)

namespace Renderer

/-- The form has one item for every field that is shown, in their order, in a single group without a
label; only the inputs of the form itself come before them. Every association loads the records of
its model once. -/
structure Covers (out : Rendered) (m : Model) (model : String) (loader : Option Loader)
    (excluded : List String) : Prop where
  items : ∃ before items, out.html = before ++ [groupMarkup items] ∧
    (∀ x ∈ controlsAll before, ∃ name, x.name? = some name ∧ '[' ∉ name.toList) ∧
    List.Forall₂ (IsItemOf m model) (shownFields m loader excluded) items
  calls : out.calls = (loadedModels m loader excluded).map Call.load

/-- The dates and times that are shown have shapes that are known. -/
def HasShapes (c : Context) (m : Model) (loader : Option Loader) (excluded : List String) : Prop :=
  ∀ field ∈ shownFields m loader excluded, storedAssociation? m field = none →
    (fieldKind m field).Accepts ((Frame.ofContext c).value field)

/-- A date or time that is shown has a part that is an infinite number. -/
def ShowsInfinite (c : Context) (m : Model) (loader : Option Loader) (excluded : List String) :
    Prop :=
  ∃ field ∈ shownFields m loader excluded, storedAssociation? m field = none ∧
    (fieldKind m field).HasInfinite ((Frame.ofContext c).value field)

/-- What drawing a default form takes besides its fields: loaders give lists, the dates and times
that are shown have shapes that are known and finite parts, and whatever is shown can be written. -/
structure CanDraw (r : Renderer) (c : Context) (m : Model) (loader : Option Loader)
    (excluded : List String) : Prop where
  plain : r.Plain c
  lists : ∀ load, loader = some load → ∀ model, (load model).membersOrNone.isOk = true
  shapes : HasShapes c m loader excluded
  finite : ¬ ShowsInfinite c m loader excluded
  numbers : c.isShowable = true
  loaded : ∀ load, loader = some load → ∀ model, (load model).isShowable = true

variable {r : Renderer} {c : Context} {f : Frame} {field : String} {o : FieldOptions} {m : Model}
  {loader : Option Loader} {excluded : List String}

/-! ## One input -/

theorem input_listItem (standard : r.drawing.theme = .standard) {out : Output}
    (h : r.input c f field o = .ok out) :
    ∃ shown attrs body, Drawn r c f field o shown ∧ out.html = [.element "li" attrs body] ∧
      controlsAll [.element "li" attrs body] = controlsAll shown.html := by
  obtain ⟨kind, shown, drawn, item⟩ := input_inv h
  have same := item_controls standard item
  unfold Renderer.item at item
  rw [standard, Template.item_fill] at item
  have html := (Except.ok.inj item).symm
  exact ⟨shown, _, _, drawn, html, html ▸ same⟩

section

variable (found : r.schema.model f.model = .ok m)
include found

theorem assoc?_found : r.assoc? f.model field = m.association? field :=
  assoc?_of_ok (association?_found found)

theorem fieldType_found : r.schema.fieldType f.model field = m.fieldType field := by
  rw [Schema.fieldType, found]
  rfl

end

theorem fieldType_listed {spec : FieldSpec} (mem : spec ∈ m.fields) :
    ∃ type, m.fieldType spec.name = .ok type := by
  unfold Model.fieldType
  cases listed : m.field? spec.name with
  | some own => exact ⟨own.type, rfl⟩
  | none =>
    have other := List.find?_eq_none.mp listed spec mem
    simp at other

theorem fieldType_association {a : Association} (listed : m.association? a.name = some a) :
    ∃ type, m.fieldType a.name = .ok type := by
  unfold Model.fieldType
  cases m.field? a.name with
  | some own => exact ⟨own.type, rfl⟩
  | none =>
    rw [listed]
    exact ⟨_, rfl⟩

/-- The controls of a field without options. -/
theorem plain_names (standard : r.drawing.theme = .standard)
    (found : r.schema.model f.model = .ok m) {type : String} (known : m.fieldType field = .ok type)
    {shown : Shown} (h : Drawn r c f field .standard shown) :
    (controlsAll shown.html).map (·.name?) =
      ((fieldKind m field).controlNames [] (f.scope.elementName field)).map some := by
  have unset : Drawing.Leaves FieldOptions.standard "name" := Drawing.leaves_of_plain rfl "name"
  have kind_eq : r.kind? f.model field .standard = some (fieldKind m field) := by
    unfold kind? fieldKind
    rw [fieldType_found found, known]
    rfl
  cases h with
  | many key described drawn many kind => cases many
  | single described drawn one kind =>
    rw [kind_eq] at kind
    cases kind
  | scalar key described drawn one resolved =>
    obtain rfl := Option.some_inj.mp (kind_eq.symm.trans resolved)
    have names := Drawing.scalar_controlNames standard unset drawn
    rw [describe_name described] at names
    exact names

/-- The control of a field that stores an association is a select under the field's own name. -/
theorem stored_select (standard : r.drawing.theme = .standard)
    (found : r.schema.model f.model = .ok m) {a : Association} (stored : a.IsStoredIn m field)
    {load : Loader} {shown : Shown} (h : Drawn r c f a.name (loading a load) shown) :
    ∃ attrs body, controlsAll shown.html = [Html.element "select" attrs body] ∧
      attr? "name" attrs = some (f.scope.elementName field) := by
  have assoc : r.assoc? f.model a.name = some a := (assoc?_found found).trans stored.listed
  have one : r.picksMany f.model a.name (loading a load) = false := by
    rw [picksMany, assoc]
    simp [isMany, stored.one]
  have key : r.inputKey f.model a.name (loading a load) = field := by
    rw [inputKey, assoc]
    simp [loading, isMany, Schema.keyOf, stored.one, stored.key]
  have unset : Drawing.Leaves (loading a load) "name" := Drawing.leaves_of_plain rfl "name"
  cases h with
  | many other described drawn many kind =>
    rw [one] at many
    cases many
  | single described drawn one kind =>
    obtain ⟨attrs, body, only, named⟩ := Drawing.select_control standard unset drawn
    rw [describe_name described, key] at named
    exact ⟨attrs, body, only, named⟩
  | scalar other described drawn one resolved => cases resolved

/-- An input of a default form is for a name that is known, and its choices are loaded. -/
theorem default_known {spec : FieldSpec} (mem : spec ∈ m.fields)
    (shown : spec.name ∈ shownFields m loader excluded) :
    ∃ name o type, defaultNode m loader spec.name = .input name o ∧
      m.fieldType name = .ok type ∧ o.isLoaded = true := by
  rcases defaultNode_cases shown with ⟨-, isPlain⟩ | ⟨a, load, stored, -, isStored⟩
  · obtain ⟨type, known⟩ := fieldType_listed mem
    exact ⟨_, _, type, isPlain, known, rfl⟩
  · obtain ⟨type, known⟩ := fieldType_association (storedAssociation?_eq_some.mp stored).listed
    exact ⟨_, _, type, isStored, known, rfl⟩

section

variable (found : r.schema.model c.modelName = .ok m)
include found

theorem default_item (standard : r.drawing.theme = .standard) {spec : FieldSpec}
    (mem : spec ∈ m.fields) (shown : spec.name ∈ shownFields m loader excluded) {out : Output}
    (h : r.node (r.input c) c (.ofContext c) (defaultNode m loader spec.name) = .ok out) :
    ∃ item, out.html = [item] ∧ IsItemOf m c.modelName spec.name item := by
  rcases defaultNode_cases shown with ⟨none, isPlain⟩ | ⟨a, load, stored, -, isStored⟩
  · rw [isPlain, node] at h
    obtain ⟨control, attrs, body, drawn, html, controls⟩ := input_listItem standard h
    obtain ⟨type, known⟩ := fieldType_listed mem
    refine ⟨_, html, ⟨attrs, body, rfl⟩, ?_, fun some => ?_⟩
    · rw [controls, plain_names standard found known drawn, itemNames, none]
      rfl
    · rw [none] at some
      cases some
  · rw [isStored, node] at h
    obtain ⟨control, attrs, body, drawn, html, controls⟩ := input_listItem standard h
    obtain ⟨attrs', body', only, named⟩ :=
      stored_select standard found (storedAssociation?_eq_some.mp stored) drawn
    refine ⟨_, html, ⟨attrs, body, rfl⟩, ?_, fun _ => ⟨attrs', body', controls.trans only⟩⟩
    rw [controls, only, itemNames, stored]
    exact congrArg (fun name => [name]) named

/-! ## When an input fails -/

/-- The item of an input is drawn if its control is. -/
theorem input_fails_of_control {P : Fault → Prop} (standard : r.drawing.theme = .standard)
    {type : String} (known : m.fieldType field = .ok type)
    (control : FailsWith P (r.control c (.ofContext c) field o (.ofDeclared type))) :
    FailsWith P (r.input c (.ofContext c) field o) := by
  have typed : r.schema.fieldType (Frame.ofContext c).model field = .ok type :=
    (fieldType_found (f := .ofContext c) found).trans known
  rw [Renderer.input, typed, ok_bind]
  refine control.bind fun drawn _ => ?_
  obtain ⟨shown, kind, calls⟩ := drawn
  refine (FailsWith.of_total ?_).thenReturn
  unfold Renderer.item
  rw [standard]
  exact ⟨_, Template.item_fill _ _ _ _ _ _ _ _⟩

/-- What is shown of a field outside rows. -/
theorem describe_total (shows : r.drawing.showsErrorsOf c = true) (o : FieldOptions)
    (field key : String) :
    ∃ desc, r.describe c (.ofContext c) field key o = .ok desc ∧
      r.drawing.ShowsErrors desc.errors ∧ desc.value = (Frame.ofContext c).value key := by
  have stored : r.schema.storageKey (Frame.ofContext c).model field =
      .ok (Schema.keyOf (m.association? field) field) := by
    rw [Schema.storageKey, association?_found (f := .ofContext c) found]
    rfl
  have errors : r.errorsOf c (.ofContext c) field =
      .ok (Errors.select c.errors (Schema.keyOf (m.association? field) field)) := by
    show (r.schema.storageKey (Frame.ofContext c).model field).map _ = _
    rw [stored]
    rfl
  unfold describe
  rw [errors]
  exact ⟨_, rfl, Drawing.showsErrors_select shows _, rfl⟩

/-- The control of a field without options fails for a part that is an infinite number. -/
theorem plain_fails (plain : r.Plain c) {type : String} (known : m.fieldType field = .ok type)
    (accepts : (fieldKind m field).Accepts ((Frame.ofContext c).value field)) :
    FailsWith (fun e => e = .misuse .infinite ∧
        (fieldKind m field).HasInfinite ((Frame.ofContext c).value field))
      (r.control c (.ofContext c) field .standard (.ofDeclared type)) := by
  obtain ⟨desc, described, shown, value⟩ :=
    describe_total found plain.shows .standard field field
  have kind : fieldKind m field = .ofScalar (.ofDeclared type) := by
    unfold fieldKind
    rw [known]
    rfl
  rw [← value] at accepts ⊢
  have drawn := Drawing.scalar_fails (o := .standard) plain.standard rfl rfl plain.length shown
    accepts c.today
  have scalar : FailsWith (fun e => e = .misuse .infinite ∧
      (fieldKind m field).HasInfinite desc.value)
      (r.scalarControl c (.ofContext c) field .standard (fieldKind m field)) := by
    rw [scalarControl, described, ok_bind]
    exact drawn.thenReturn
  rw [kind] at scalar ⊢
  exact scalar.thenReturn

theorem single_total (plain : r.Plain c) (unset : o.htmlOptions = []) (field key : String)
    (items : List Value) :
    ∃ shown, r.singleControl c (.ofContext c) field o items key = .ok shown := by
  obtain ⟨desc, described, shown, -⟩ := describe_total found plain.shows o field key
  have select : ∀ choices, ∃ hs, r.drawing.select desc choices o = .ok hs :=
    fun choices => Drawing.select_total plain.standard (FieldOptions.isWritable_of_plain unset)
      shown choices
  rw [singleControl, described, ok_bind]
  split
  · rename_i literal
    obtain ⟨choices, read⟩ := Drawing.literalChoices_total literal
    obtain ⟨hs, drawn⟩ := select choices
    exact ⟨_, by rw [Drawing.literalSelect, read, ok_bind, drawn]; rfl⟩
  · obtain ⟨hs, drawn⟩ := select (Drawing.recordChoices desc items o r.schema.identity)
    exact ⟨_, by rw [Drawing.recordSelect, drawn]; rfl⟩

theorem stored_total (plain : r.Plain c) {a : Association} (stored : a.IsStoredIn m field)
    {load : Loader} (listed : (load a.relatedModel).membersOrNone.isOk = true) (type : ScalarType) :
    ∃ control, r.control c (.ofContext c) a.name (loading a load) type = .ok control := by
  obtain ⟨items, members⟩ := exists_of_isOk listed
  obtain ⟨chosen, drawn⟩ := single_total (o := loading a load) found plain rfl a.name
    (Schema.keyOf (some a) a.name) items
  have given : r.itemsOf (loading a load).collection c (Frame.ofContext c).record = .ok (items,
      [.resolve (.related a.relatedModel (load a.relatedModel)) c.modelName
        (Frame.ofContext c).record]) := by
    show (load a.relatedModel).membersOrNone >>= _ = _
    rw [members]
    rfl
  have one : isMany (some a) = false := by simp [isMany, stored.one]
  have assoc : r.schema.association? (Frame.ofContext c).model a.name = .ok (some a) :=
    (association?_found (f := .ofContext c) found).trans (congrArg Except.ok stored.listed)
  have associated : ∃ calls, r.association c (.ofContext c) a.name (loading a load) =
      .ok (chosen, calls) := by
    rw [association, given, ok_bind]
    simp only [assoc, ok_bind, one, Bool.false_eq_true, if_false, drawn]
    exact ⟨_, rfl⟩
  obtain ⟨calls, associated⟩ := associated
  refine ⟨(chosen, "select", calls), ?_⟩
  show (r.association c (.ofContext c) a.name (loading a load) >>= _) = _
  rw [associated]
  rfl

theorem default_total (can : CanDraw r c m loader excluded) {spec : FieldSpec}
    (mem : spec ∈ m.fields) (shown : spec.name ∈ shownFields m loader excluded) :
    ∃ out, r.node (r.input c) c (.ofContext c) (defaultNode m loader spec.name) = .ok out := by
  refine FailsWith.total ?_
  rcases defaultNode_cases shown with ⟨none, isPlain⟩ | ⟨a, load, stored, loads, isStored⟩
  · rw [isPlain, node]
    obtain ⟨type, known⟩ := fieldType_listed mem
    refine input_fails_of_control found can.plain.standard known ?_
    refine (plain_fails found can.plain known (can.shapes spec.name shown none)).mono ?_
    rintro e ⟨-, infinite⟩
    exact can.finite ⟨spec.name, shown, none, infinite⟩
  · rw [isStored, node]
    have isStoredIn := storedAssociation?_eq_some.mp stored
    obtain ⟨type, known⟩ := fieldType_association isStoredIn.listed
    refine input_fails_of_control found can.plain.standard known ?_
    exact .of_total (stored_total found can.plain isStoredIn
      (can.lists load loads a.relatedModel) _)

end

/-! ## The whole form -/

theorem nodes_fails_of_each {P : Fault → Prop} {draw : Drawer} {ns : List Form.Node}
    (each : ∀ n ∈ ns, FailsWith P (r.node draw c f n)) : FailsWith P (r.nodes draw c f ns) := by
  induction ns with
  | nil =>
    rw [nodes]
    exact .ok _
  | cons n rest ih =>
    rw [nodes]
    refine (each n List.mem_cons_self).bind fun _ _ => ?_
    exact (ih fun other mem => each other (List.mem_cons_of_mem n mem)).thenReturn

theorem default_items (standard : r.drawing.theme = .standard)
    (found : r.schema.model c.modelName = .ok m) {fields : List String}
    (shown : ∀ field ∈ fields, field ∈ shownFields m loader excluded) {parts : List Output}
    (h : r.nodes (r.input c) c (.ofContext c) (fields.map (defaultNode m loader)) = .ok parts) :
    ∃ items, parts.map (·.html) = items.map List.singleton ∧
      List.Forall₂ (IsItemOf m c.modelName) fields items := by
  induction fields generalizing parts with
  | nil =>
    rw [List.map_nil, nodes] at h
    cases h
    exact ⟨[], rfl, .nil⟩
  | cons field rest ih =>
    rw [List.map_cons, nodes] at h
    obtain ⟨first, drawn, h⟩ := bind_eq_ok.mp h
    obtain ⟨others, drawnRest, h⟩ := bind_eq_ok.mp h
    cases h
    have shown_field := shown field List.mem_cons_self
    obtain ⟨spec, mem, rfl⟩ := mem_shownFields shown_field
    obtain ⟨item, html, isItem⟩ := default_item found standard mem shown_field drawn
    obtain ⟨items, htmls, areItems⟩ :=
      ih (fun other mem => shown other (List.mem_cons_of_mem _ mem)) drawnRest
    exact ⟨item :: items, by rw [List.map_cons, html, htmls]; rfl, .cons isItem areItems⟩

/-- The inputs of fields load the records of the associations that they store. -/
theorem default_calls (model : String) (record : Value) {fields : List String}
    (shown : ∀ field ∈ fields, field ∈ shownFields m loader excluded) :
    (callsOfAll model record (fields.map (defaultNode m loader))).map Invocation.logged =
      (fields.filterMap fun field => (storedAssociation? m field).map (·.relatedModel)).map
        Call.load := by
  induction fields with
  | nil => rfl
  | cons field rest ih =>
    have others := ih fun other mem => shown other (List.mem_cons_of_mem _ mem)
    rw [List.map_cons, callsOfAll, List.map_append, others, List.filterMap_cons]
    rcases defaultNode_cases (shown field List.mem_cons_self) with
      ⟨none, isPlain⟩ | ⟨a, load, stored, -, isStored⟩
    · rw [isPlain, none]
      rfl
    · rw [isStored, stored]
      rfl

theorem group_drawn (standard : r.drawing.theme = .standard) (c : Context) {items : List Html}
    {body : Output} (listed : body.html = joinLines (items.map List.singleton)) :
    r.fieldset c "" .standard body = .ok (body.around [groupMarkup items]) := by
  have filled : r.fieldset c "" .standard body =
      r.drawing.theme.fill "form/fieldset.html" [
        ("legend", .value (.text "")),
        ("body", .fragment body.html),
        ("visible", .value (.bool true))] >>= fun html => .ok (body.around html) := rfl
  rw [filled, standard, Template.fieldset_fill, ok_bind, listed]
  rfl

/-- A form of one node is that node after the inputs of the form itself. -/
theorem form_single (standard : r.drawing.theme = .standard) (c : Context) (resource : String)
    (n : Form.Node) :
    ∃ before, (∀ x ∈ controlsAll before, ∃ name, x.name? = some name ∧ '[' ∉ name.toList) ∧
      r.form ⟨resource, [n]⟩ c = r.node (r.input c) c (.ofContext c) n >>= fun part =>
        .ok ⟨before ++ part.html, readyScript part.listeners, part.calls⟩ := by
  obtain ⟨before, bracketless, filled⟩ := Template.form_drawn c.csrfToken (c.mode == .edit)
  refine ⟨before, bracketless, ?_⟩
  unfold form formBy
  simp only [nodes, standard, filled]
  cases r.node (r.input c) c (.ofContext c) n with
  | error e => rfl
  | ok part =>
    simp [Output.lines, Output.allListeners, Output.allCalls, joinLines]

/-- What is drawn as a default form covers the fields of its model. -/
theorem default_covers (standard : r.drawing.theme = .standard)
    (found : r.schema.model c.modelName = .ok m) {model : String} {out : Rendered}
    (h : r.form (defaultTree m model loader excluded) c = .ok out) :
    Covers out m c.modelName loader excluded := by
  obtain ⟨before, bracketless, form_eq⟩ := form_single standard c model
    (.fieldset "" ((shownFields m loader excluded).map (defaultNode m loader)) .standard)
  rw [defaultTree, form_eq] at h
  obtain ⟨group, drawn, h⟩ := bind_eq_ok.mp h
  cases h
  -- the calls are those of the group as a whole, the items those of its body
  have calls := node_calls _ drawn
  rw [node] at drawn
  obtain ⟨parts, drawnParts, drawn⟩ := bind_eq_ok.mp drawn
  obtain ⟨items, htmls, areItems⟩ := default_items standard found (fun _ mem => mem) drawnParts
  rw [group_drawn standard c (congrArg joinLines htmls)] at drawn
  cases drawn
  refine ⟨⟨before, items, rfl, bracketless, areItems⟩, ?_⟩
  refine (congrArg (List.map Invocation.logged) calls).trans ?_
  exact default_calls c.modelName (Frame.ofContext c).record fun _ mem => mem

theorem default_form_total (found : r.schema.model c.modelName = .ok m)
    (can : CanDraw r c m loader excluded) (model : String) :
    ∃ out, r.form (defaultTree m model loader excluded) c = .ok out := by
  have standard := can.plain.standard
  obtain ⟨before, -, form_eq⟩ := form_single standard c model
    (.fieldset "" ((shownFields m loader excluded).map (defaultNode m loader)) .standard)
  rw [defaultTree, form_eq, node]
  refine FailsWith.total (FailsWith.thenReturn ?_)
  refine (nodes_fails_of_each fun n mem => ?_).bind fun parts drawnParts => ?_
  · obtain ⟨field, shown, rfl⟩ := List.mem_map.mp mem
    obtain ⟨spec, listed, rfl⟩ := mem_shownFields shown
    exact .of_total (default_total found can listed shown)
  · obtain ⟨items, htmls, -⟩ := default_items standard found (fun _ mem => mem) drawnParts
    rw [group_drawn standard c (congrArg joinLines htmls)]
    exact .ok _

/-- A group of inputs whose fields are known does not fail for a name. -/
theorem inputs_resolve (found : r.schema.model c.modelName = .ok m) {inputs : List Form.Node}
    (areInputs : ∀ n ∈ inputs, ∃ field o type, n = .input field o ∧
      m.fieldType field = .ok type ∧ o.isLoaded = true)
    (resource label : String) (o : FieldOptions) :
    Resolves (r.form ⟨resource, [.fieldset label inputs o]⟩ c) := by
  have flat : walkAll inputs = inputs := by
    refine walk_inputs fun n mem => ?_
    obtain ⟨field, o, -, isInput, -⟩ := areInputs n mem
    exact ⟨field, o, isInput⟩
  have walked : Tree.walk ⟨resource, [.fieldset label inputs o]⟩ =
      .fieldset label inputs o :: inputs := by
    simp [Tree.walk, walkAll, Node.walk, flat]
  refine form_resolves found (fun field o' mem => ?_) (fun field rows o' mem => ?_)
  · rw [walked, List.mem_cons] at mem
    rcases mem with same | mem
    · cases same
    · obtain ⟨_, _, type, isInput, known, loaded⟩ := areInputs _ mem
      cases isInput
      exact ⟨by rw [known]; rfl, loaded⟩
  · rw [walked, List.mem_cons] at mem
    rcases mem with same | mem
    · cases same
    · obtain ⟨_, _, -, isInput, -⟩ := areInputs _ mem
      cases isInput

/-- **The default form.** It is one group without a label, of inputs alone. For every context it
resolves all its names, and what is drawn covers the fields that are shown. It is drawn for every
record whose dates and times have shapes that are known and finite parts, where what is shown can be
written. -/
theorem default_form (r : Renderer) (standard : r.drawing.theme = .standard) (model : String)
    (m : Model) (found : r.schema.model model = .ok m) (named : m.HasNames)
    (loader : Option Loader) (excluded : List String) :
    Tree.default r.schema model loader excluded = .ok (defaultTree m model loader excluded) ∧
      (∃ inputs, (defaultTree m model loader excluded).nodes = [.fieldset "" inputs .standard] ∧
        ∀ n ∈ inputs, ∃ field o, n = .input field o) ∧
      ∀ c : Context, c.modelName = model →
        Resolves (r.form (defaultTree m model loader excluded) c) ∧
        (∀ out, r.form (defaultTree m model loader excluded) c = .ok out →
          Covers out m model loader excluded) ∧
        (CanDraw r c m loader excluded →
          ∃ out, r.form (defaultTree m model loader excluded) c = .ok out) := by
  have areInputs : ∀ n ∈ (shownFields m loader excluded).map (defaultNode m loader),
      ∃ field o type, n = .input field o ∧ m.fieldType field = .ok type ∧ o.isLoaded = true := by
    intro n mem
    obtain ⟨field, shown, rfl⟩ := List.mem_map.mp mem
    obtain ⟨spec, listed, rfl⟩ := mem_shownFields shown
    exact default_known listed shown
  refine ⟨default_compiles found named, ⟨_, rfl, ?_⟩, ?_⟩
  · intro n mem
    obtain ⟨field, o, -, isInput, -⟩ := areInputs n mem
    exact ⟨field, o, isInput⟩
  · rintro c rfl
    exact ⟨inputs_resolve found areInputs _ _ _,
      fun out drawn => default_covers standard found drawn,
      fun can => default_form_total found can c.modelName⟩

/-- Orders of customers. Of the fields that end in `_id` only that of the customer stores an
association, and a field has the name of that association. -/
def orderModel : Model where
  name := "order"
  fields := [⟨"id", "id"⟩, ⟨"note", "text"⟩, ⟨"paid", "boolean"⟩, ⟨"due", "date"⟩,
    ⟨"customer_id", "id"⟩, ⟨"customer", "string"⟩, ⟨"branch_id", "id"⟩, ⟨"grid_id", "integer"⟩]
  associations := [⟨"customer", .one, "customer_id", "person", none⟩,
    ⟨"branch", .many, "branch_id", "branch", none⟩, ⟨"grid", .one, "cell_id", "grid", none⟩]
  identityField := "id"

/-- A shop with its orders. -/
def shop : Renderer where
  schema := ⟨[orderModel], "id"⟩
  drawing := ⟨.standard, .standard⟩

/-- Every model has one record. -/
def oneRecord : Loader := fun _ =>
  .list [.table [(.text "id", .int 1), (.text "name", .text "Ann")]]

/-- An order that is new. -/
def newOrder : Context where
  record := .none
  modelName := "order"
  params := []
  errors := none
  required := []
  today := .first
  mode := .new
  csrfToken := none

/-- No name of the order is blank. -/
theorem orderModel_named : orderModel.HasNames := by
  have each : (orderModel.fields.all fun f => !Text.allBlank f.name &&
      (keyedName? f.name).all fun base => !Text.allBlank base) = true := by decide +kernel
  intro f mem
  have own := List.all_eq_true.mp each f mem
  rw [Bool.and_eq_true, Bool.not_eq_true'] at own
  refine ⟨own.1, fun base isNamed => ?_⟩
  have keyed := own.2
  rw [keyedName?_eq_some.mpr isNamed] at keyed
  simpa using keyed

theorem default_form_newOrder :
    ∃ out, Tree.default shop.schema "order" (some oneRecord) ["id"] =
        .ok (defaultTree orderModel "order" (some oneRecord) ["id"]) ∧
      shop.form (defaultTree orderModel "order" (some oneRecord) ["id"]) newOrder = .ok out ∧
      Covers out orderModel "order" (some oneRecord) ["id"] ∧
      loadedModels orderModel (some oneRecord) ["id"] = ["person"] ∧
      (shownFields orderModel (some oneRecord) ["id"]).map (itemNames orderModel "order") = [
        ["order[note]"], ["order[paid]", "order[paid]"],
        ["order[due][year]", "order[due][month]", "order[due][day]"], ["order[customer_id]"],
        ["order[customer]"], ["order[branch_id]"], ["order[grid_id]"]] := by
  obtain ⟨compiled, -, drawn⟩ :=
    default_form shop rfl "order" orderModel rfl orderModel_named (some oneRecord) ["id"]
  obtain ⟨-, covers, draws⟩ := drawn newOrder rfl
  have absent : ∀ field, (Frame.ofContext newOrder).value field = .none := fun _ => rfl
  have can : CanDraw shop newOrder orderModel (some oneRecord) ["id"] := by
    refine ⟨⟨rfl, by decide +kernel, rfl⟩, ?_, fun field _ _ t _ => ?_, ?_, rfl, ?_⟩
    · rintro _ ⟨⟩ _
      rfl
    · rw [absent]
      cases t <;> rfl
    · rintro ⟨field, -, -, t, -, parts, known, p, mem, infinite⟩
      have finite :
          (((t.parts .none).toOption.getD []).all fun p => p.2.infinite?.isNone) = true := by
        cases t <;> decide
      rw [absent] at known
      rw [known] at finite
      have notInfinite := List.all_eq_true.mp finite p mem
      rw [Option.isNone_iff_eq_none] at notInfinite
      rw [notInfinite] at infinite
      cases infinite
    · rintro _ ⟨⟩ model
      have same : (oneRecord "person").isShowable = true := by decide +kernel
      exact same
  obtain ⟨out, isDrawn⟩ := draws can
  exact ⟨out, compiled, isDrawn, covers out isDrawn, by decide +kernel, by decide +kernel⟩

/-! ## Orders that are not drawn -/

/-- An order that is due in an infinite year. -/
def endlessOrder : Context :=
  { newOrder with record := .table [(.text "due", .table [(.text "year", .float (.infinite false)),
      (.text "month", .int 1), (.text "day", .int 1)])] }

/-- An order whose note is shorter than a number that cannot be written. -/
def shortNote : Context :=
  { newOrder with errors := some [("note",
      .tuple [.text "too_short", .int (1 - Int.ofNat (Nat.pow 10 4300))])] }

/-- All dates and times have shapes that are known, but the default form ends with a fault. -/
structure StopsAt (c : Context) (e : Fault) : Prop where
  compiled : Tree.default shop.schema "order" none ["id"] =
    .ok (defaultTree orderModel "order" none ["id"])
  shapes : HasShapes c orderModel none ["id"]
  stops : shop.form (defaultTree orderModel "order" none ["id"]) c = .error e

theorem hasShapes_of_all {c : Context}
    (known : ((shownFields orderModel none ["id"]).all fun field =>
      (fieldKind orderModel field).temporal?.all fun t =>
        (t.parts ((Frame.ofContext c).value field)).isOk) = true) :
    HasShapes c orderModel none ["id"] := by
  intro field shown _ t timed
  have own := List.all_eq_true.mp known field shown
  rw [timed] at own
  exact own

/-- **Forms that stop.** A default form is not drawn for a part that is an infinite number, although
the date has a shape that is known, and not for an error that cannot be put in words. -/
theorem default_form_stops : orderModel.HasNames ∧
    StopsAt endlessOrder (.misuse .infinite) ∧ StopsAt shortNote (.misuse .length) := by
  have compiled : Tree.default shop.schema "order" none ["id"] =
      .ok (defaultTree orderModel "order" none ["id"]) := default_compiles rfl orderModel_named
  refine ⟨orderModel_named, ⟨compiled, hasShapes_of_all (by decide +kernel), ?_⟩,
    ⟨compiled, hasShapes_of_all (by decide +kernel), ?_⟩⟩
  · exact misuse?_eq_some.mp (by decide +kernel)
  · exact misuse?_eq_some.mp (by decide +kernel)

end Renderer

end Formwright.Render
