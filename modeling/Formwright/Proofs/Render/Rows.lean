import Formwright.Proofs.Render.Names

/-!
# The rows of a relation

The block of a relation holds one row for every related record, in order, and then one template. A
row is drawn from the record of its index; its names start with its own prefix, so the rows and the
template never share a name. A row with an identity has exactly one input with that identity and the
two inputs for its removal; the template has none of them, and it is the same whatever the record,
the submitted values and the errors are.

- `names_invariant`: names of what is drawn in a frame.
- `hasMany_inv`: the block of a relation taken apart.
- `hasMany_rows`: rows dense, in order and apart; the template inert.
-/

namespace Formwright

namespace Render.Renderer

open Form Html Outcome Template

variable {r : Renderer} {c : Context} {f : Frame} {field : String}

/-! ## Drawing rows -/

theorem drawRows_inv {draw : Nat → Value → Except Fault Output} {records : List Value}
    {index : Nat} {outs : List Output} (h : drawRows draw index records = .ok outs) :
    outs.length = records.length ∧ ∀ (i : Nat) (record : Value), records[i]? = some record →
      ∃ out, outs[i]? = some out ∧ draw (index + i) record = .ok out := by
  induction records generalizing index outs with
  | nil =>
    cases h
    exact ⟨rfl, fun i record found => by simp at found⟩
  | cons first rest ih =>
    obtain ⟨out, drawn, h⟩ := bind_eq_ok.mp h
    obtain ⟨others, drawnRest, h⟩ := bind_eq_ok.mp h
    cases h
    obtain ⟨length, each⟩ := ih drawnRest
    refine ⟨by simp [length], fun i record found => ?_⟩
    cases i with
    | zero =>
      cases found
      exact ⟨out, rfl, drawn⟩
    | succ i =>
      obtain ⟨out', at_i, drawn'⟩ := each i record found
      exact ⟨out', at_i, by rwa [← Nat.add_assoc, Nat.add_right_comm]⟩

/-- The block of a relation in a frame. -/
def blockIn (f : Frame) (field : String) (rows template : List Html) : List Html :=
  let templateId := (f.scope.nested field (Rows.sentinel field)).idPrefix ++ "_template"
  blockMarkup field (Template.labelOf (.text (Words.singularize field))) templateId
    (Rows.insertScript templateId (Rows.sentinel field)) rows template

theorem hasMany_drawn (standard : r.drawing.theme = .standard) (drawn : List Output)
    (template : Output) :
    r.hasMany f field drawn template = .ok {
      html := blockIn f field (joinLines (drawn.map (·.html))) template.html
      listeners := Output.allListeners drawn ++ template.listeners
      calls := Output.allCalls drawn ++ template.calls } := by
  unfold hasMany
  simp only [standard, block_drawn, ok_bind, pure_eq]
  rfl

theorem hasMany_html (standard : r.drawing.theme = .standard) {drawn : List Output}
    {template out : Output} (h : r.hasMany f field drawn template = .ok out) :
    out.html = blockIn f field (joinLines (drawn.map (·.html))) template.html := by
  rw [hasMany_drawn standard] at h
  cases h
  rfl

/-- The inputs of a row that are its own. -/
def rowInputs (row : Frame) (identity : Value) : List Html :=
  if identity.isNone then [] else
    destroyInputs row.scope.idPrefix (row.scope.elementName "_destroy") ++
      [identityInput row.scope.idPrefix (row.scope.elementName "id") identity]

theorem row_drawn (standard : r.drawing.theme = .standard) (row : Frame) (field : String) :
    ∃ around, Around around (rowInputs row (r.schema.identity row.record)) ∧
      ∀ body, r.row row field body = .ok (((if row.record.isNone then body.silent else body).around
        (around body.html)).after (.build field row.record)) := by
  obtain ⟨around, isAround, drawn⟩ := row_around row.scope.idPrefix
    (row.scope.elementName "_destroy") (row.scope.elementName "id")
    (r.schema.identity row.record)
  refine ⟨around, isAround, fun body => ?_⟩
  unfold Renderer.row
  simp only [standard, drawn, ok_bind, pure_eq]

theorem templateRow_drawn (standard : r.drawing.theme = .standard) (row : Frame) (field : String) :
    ∃ around, Around around [] ∧ ∀ body,
      r.templateRow row field body = .ok ((body.silent.around (around body.html)).after
        (.build field .none)) := by
  obtain ⟨around, isAround, drawn⟩ := templateRow_around row.scope.idPrefix
  refine ⟨around, isAround, fun body => ?_⟩
  unfold Renderer.templateRow
  simp only [standard, drawn, ok_bind, pure_eq]

theorem fieldset_drawn (standard : r.drawing.theme = .standard) (c : Context) (label : String)
    (o : FieldOptions) :
    ∃ around, Around around [] ∧
      ∀ body, r.fieldset c label o body = .ok (body.around (around body.html)) := by
  obtain ⟨legend, filled⟩ : ∃ legend, ∀ body : Output, r.fieldset c label o body =
      r.drawing.theme.fill "form/fieldset.html" [
        ("legend", .value (.text legend)),
        ("body", .fragment body.html),
        ("visible", .value (.bool (o.display || c.isEditing)))] >>=
      fun html => .ok (body.around html) := ⟨_, fun _ => rfl⟩
  obtain ⟨around, isAround, drawn⟩ := fieldset_around legend (o.display || c.isEditing)
  refine ⟨around, isAround, fun body => ?_⟩
  rw [filled, standard, drawn, ok_bind]

theorem actions_drawn (standard : r.drawing.theme = .standard) :
    ∃ around, Around around [] ∧
      ∀ body, r.actions body = .ok (body.around (around body.html)) := by
  obtain ⟨around, isAround, drawn⟩ := actions_around
  refine ⟨around, isAround, fun body => ?_⟩
  unfold Renderer.actions
  simp only [standard, drawn, ok_bind, pure_eq]

theorem row_controls (standard : r.drawing.theme = .standard) {row : Frame} {body out : Output}
    (h : r.row row field body = .ok out) :
    controlsAll out.html =
      controlsAll body.html ++ rowInputs row (r.schema.identity row.record) := by
  obtain ⟨around, isAround, drawn⟩ := row_drawn standard row field
  rw [drawn] at h
  cases h
  exact isAround.controls _

theorem templateRow_controls (standard : r.drawing.theme = .standard) {row : Frame}
    {body out : Output} (h : r.templateRow row field body = .ok out) :
    controlsAll out.html = controlsAll body.html := by
  obtain ⟨around, isAround, drawn⟩ := templateRow_drawn standard row field
  rw [drawn] at h
  cases h
  exact (isAround.controls _).trans (List.append_nil _)

/-! ## Names -/

theorem nested_namePrefix (s : FieldScope) (relation index : String) :
    (s.nested relation index).namePrefix =
      s.namePrefix ++ "[" ++ (FieldScope.rowsKey relation ++ "][" ++ index ++ "]") := by
  simp [FieldScope.nested, String.append_assoc]

theorem rowInputs_prefixed {row : Frame} {identity : Value} :
    ∀ x ∈ rowInputs row identity,
      ∃ rest, x.name? = some (row.scope.namePrefix ++ "[" ++ rest) := by
  intro x hx
  unfold rowInputs at hx
  split at hx
  · cases hx
  · simp only [destroyInputs, List.cons_append, List.nil_append, List.mem_cons, List.not_mem_nil,
      or_false] at hx
    rcases hx with rfl | rfl | rfl
    · exact ⟨"_destroy" ++ "]", by rw [← elementName_eq]; rfl⟩
    · exact ⟨"_destroy" ++ "]", by rw [← elementName_eq]; rfl⟩
    · exact ⟨"id" ++ "]", by rw [← elementName_eq]; rfl⟩

/-- The names of a row are names of the frame around it, with further brackets. -/
theorem scoped_of_row {s : FieldScope} {index : String} {hs : List Html}
    (h : Prefixed (s.nested field index).namePrefix hs) : Scoped s.namePrefix hs := by
  intro x hx
  obtain ⟨rest, named⟩ := h x hx
  refine ⟨FieldScope.rowsKey field ++ "][" ++ index ++ "][" ++ rest, ?_,
    fun _ => ne_own_of_bracket (by simp)⟩
  rw [named, nested_namePrefix]
  simp [String.append_assoc]

theorem joinLines_scoped {namePrefix : String} {blocks : List (List Html)}
    (each : ∀ block ∈ blocks, Scoped namePrefix block) :
    Scoped namePrefix (joinLines blocks) := by
  intro x hx
  rw [controlsAll_joinLines, List.mem_flatMap] at hx
  obtain ⟨block, mem, hx⟩ := hx
  exact each block mem x hx

theorem lines_scoped {namePrefix : String} {parts : List Output}
    (each : ∀ part ∈ parts, Scoped namePrefix part.html) :
    Scoped namePrefix (Output.lines parts).html := by
  refine joinLines_scoped fun block mem => ?_
  obtain ⟨part, hp, rfl⟩ := List.mem_map.mp mem
  exact each part hp

theorem blockIn_scoped {rows template : List Html} (rowsScoped : Scoped f.scope.namePrefix rows)
    (templateScoped : Scoped f.scope.namePrefix template) :
    Scoped f.scope.namePrefix (blockIn f field rows template) := by
  intro x hx
  rw [blockIn, blockMarkup_controls, List.mem_append] at hx
  rcases hx with hx | hx
  · exact rowsScoped x hx
  · exact templateScoped x hx

theorem script_controls (standard : r.drawing.theme = .standard) {script : String} {out : Output}
    (h : r.script script = .ok out) : controlsAll out.html = [] := by
  obtain ⟨html, filled, rfl⟩ := exceptMap_eq_ok.mp h
  rw [standard, Theme.standard_fill "form/script.html" BuiltIn.script
    (by simp [Template.builtIn])] at filled
  exact fillAll_unnamed BuiltIn.script rfl (Drawing.valueScope [("script", .markup script)]) filled

theorem scoped_of_controls {namePrefix : String} {hs hs' : List Html}
    (same : controlsAll hs' = controlsAll hs) (h : Scoped namePrefix hs) :
    Scoped namePrefix hs' := fun x hx => h x (same ▸ hx)

/-- **Names.** What is drawn in a frame is named by its prefix, node by node. -/
theorem names_invariant (standard : r.drawing.theme = .standard) :
    Invariant r (r.input c) c (fun _ => True) (fun n _ => n.Everywhere fun n => n.keepsNames)
      (fun f out => Scoped f.scope.namePrefix out.html)
      (fun f out => Prefixed f.scope.namePrefix out.html) where
  input := by
    intro f field o out keeps drawn
    exact input_scoped standard (Node.everywhere_self keeps) drawn
  content := by
    intro f content isMarkup _ x hx
    cases hx
  script := by
    intro f script out _ drawn x hx
    rw [script_controls standard drawn] at hx
    cases hx
  lines := lines_scoped
  group := Node.everywhere_group
  fieldset := by
    intro f label body o inner out _ inFrame drawn
    obtain ⟨around, isAround, drawnGroup⟩ := fieldset_drawn standard c label o
    rw [drawnGroup] at drawn
    cases drawn
    exact scoped_of_controls ((isAround.controls _).trans (List.append_nil _)) inFrame
  grouped := Node.everywhere_actions
  actions := by
    intro f body inner out _ inFrame drawn
    obtain ⟨around, isAround, drawnGroup⟩ := actions_drawn standard
    rw [drawnGroup] at drawn
    cases drawn
    exact scoped_of_controls ((isAround.controls _).trans (List.append_nil _)) inFrame
  relation := by
    intro f field rows o rel keeps _
    have met : ∀ record f,
        (rows record).Met (fun n _ => n.Everywhere fun n => n.keepsNames) f :=
      fun record f => RowForm.met_of_everywhere (Node.everywhere_rows keeps record) fun _ hn => hn
    exact ⟨fun i record _ => ⟨trivial, met _ _⟩, trivial, met _ _⟩
  row := by
    intro f field body out _ inFrame drawn x hx
    rw [row_controls standard drawn, List.mem_append] at hx
    rcases hx with hx | hx
    · exact inFrame.prefixed x hx
    · exact rowInputs_prefixed x hx
  templateRow := by
    intro f field body out _ inFrame drawn x hx
    rw [templateRow_controls standard drawn] at hx
    exact inFrame.prefixed x hx
  block := by
    intro f field rows o rel drawn template out _ _ rowsNamed templateNamed drawnBlock
    rw [hasMany_drawn standard] at drawnBlock
    cases drawnBlock
    refine blockIn_scoped (joinLines_scoped fun block mem => ?_) (scoped_of_row templateNamed)
    obtain ⟨part, hp, rfl⟩ := List.mem_map.mp mem
    obtain ⟨i, record, -, named⟩ := rowsNamed part hp
    exact scoped_of_row named

/-! ## A block taken apart -/

/-- What a block is drawn from: the rows of the related records and the template. -/
theorem hasMany_inv {draw : Drawer} {rows : Value → RowForm} {o : FieldOptions} {out : Output}
    (h : r.node draw c f (.hasMany field rows o) = .ok out) :
    ∃ rel drawn template, r.relation f field = .ok rel ∧ drawn.length = rel.records.length ∧
      (∀ (i : Nat) (record : Value), rel.records[i]? = some record → ∃ body part,
        drawn[i]? = some part ∧
        r.rowForm draw c (rowFrame rel f field i record) (rows record) = .ok body ∧
        r.row (rowFrame rel f field i record) field body = .ok part) ∧
      (∃ body, r.rowForm draw c (templateFrame rel f field) (rows .none) = .ok body ∧
        r.templateRow (templateFrame rel f field) field body = .ok template) ∧
      r.hasMany f field drawn template = .ok out := by
  obtain ⟨rel, drawn, blank, template, found, rowsDrawn, blankDrawn, templateDrawn, h⟩ :=
    node_hasMany_inv h
  obtain ⟨length, each⟩ := drawRows_inv rowsDrawn
  refine ⟨rel, drawn, template, found, length, fun i record at_i => ?_,
    ⟨blank, blankDrawn, templateDrawn⟩, h⟩
  obtain ⟨part, at_i', rowDrawn⟩ := each i record at_i
  rw [Nat.zero_add] at rowDrawn
  obtain ⟨body, bodyDrawn, rowDrawn⟩ := bind_eq_ok.mp rowDrawn
  exact ⟨body, part, at_i', bodyDrawn, rowDrawn⟩

/-- The inputs of a name. -/
def inputsNamed (name : String) (hs : List Html) : List Html :=
  (controlsAll hs).filter fun x => x.isInput && x.name? == some name

/-- The row of a record: its nodes, drawn for the record, and the inputs of the row itself. -/
structure IsRow (r : Renderer) (c : Context) (row : Frame) (field : String) (form : RowForm)
    (part : List Html) : Prop where
  body : ∃ body out, r.rowForm (r.input c) c row form = .ok body ∧
    r.row row field body = .ok out ∧ out.html = part ∧
    controlsAll part = controlsAll body.html ++ rowInputs row (r.schema.identity row.record)
  names : Prefixed row.scope.namePrefix part
  identity : inputsNamed (row.scope.elementName "id") part =
    if (r.schema.identity row.record).isNone then [] else
      [identityInput row.scope.idPrefix (row.scope.elementName "id")
        (r.schema.identity row.record)]
  destroy : inputsNamed (row.scope.elementName "_destroy") part =
    if (r.schema.identity row.record).isNone then [] else
      destroyInputs row.scope.idPrefix (row.scope.elementName "_destroy")

/-- The template of a new row: its nodes, drawn for no record, and no inputs of its own. -/
structure IsTemplate (r : Renderer) (c : Context) (blank : Frame) (field : String)
    (form : RowForm) (part : List Html) : Prop where
  body : ∃ body out, r.rowForm (r.input c) c blank form = .ok body ∧
    r.templateRow blank field body = .ok out ∧ out.html = part ∧
    controlsAll part = controlsAll body.html
  names : Prefixed blank.scope.namePrefix part
  identity : inputsNamed (blank.scope.elementName "id") part = []
  destroy : inputsNamed (blank.scope.elementName "_destroy") part = []

/-- Controls in a frame leave the names of a row's own inputs free. -/
theorem inputsNamed_of_scoped {s : FieldScope} {hs : List Html} (inFrame : Scoped s.namePrefix hs)
    (key : String) (own : key = "id" ∨ key = "_destroy") :
    inputsNamed (s.elementName key) hs = [] := by
  refine List.filter_eq_nil_iff.mpr fun x hx => ?_
  obtain ⟨rest, named, free⟩ := inFrame x hx
  rw [Bool.and_eq_true, beq_iff_eq, named, elementName_eq]
  rintro ⟨isInput, same⟩
  have rest_eq : rest = key ++ "]" := (String.append_right_inj _).mp (Option.some.inj same)
  rcases own with rfl | rfl
  · exact (free isInput).1 rest_eq
  · exact (free isInput).2 rest_eq

theorem id_ne_destroy (s : FieldScope) : s.elementName "id" ≠ s.elementName "_destroy" := by
  intro same
  rw [elementName_eq, elementName_eq] at same
  exact absurd ((String.append_right_inj _).mp same) (by decide)

theorem filter_id (row : Frame) (identity : Value) :
    ((rowInputs row identity).filter fun x =>
        x.isInput && x.name? == some (row.scope.elementName "id")) =
      if identity.isNone then [] else
        [identityInput row.scope.idPrefix (row.scope.elementName "id") identity] := by
  unfold rowInputs
  split
  · rfl
  · simp [destroyInputs, identityInput, isInput, name?, attrs, (id_ne_destroy row.scope).symm]

theorem filter_destroy (row : Frame) (identity : Value) :
    ((rowInputs row identity).filter fun x =>
        x.isInput && x.name? == some (row.scope.elementName "_destroy")) =
      if identity.isNone then [] else
        destroyInputs row.scope.idPrefix (row.scope.elementName "_destroy") := by
  unfold rowInputs
  split
  · rfl
  · simp [destroyInputs, identityInput, isInput, name?, attrs, id_ne_destroy row.scope]

theorem rowForm_scoped (standard : r.drawing.theme = .standard) {form : RowForm}
    (keeps : form.Everywhere fun n => n.keepsNames) {body : Output}
    (h : r.rowForm (r.input c) c f form = .ok body) :
    Scoped f.scope.namePrefix body.html :=
  (names_invariant standard).rowForm_holds
    (RowForm.met_of_everywhere keeps fun _ hn => hn) h

theorem isRow (standard : r.drawing.theme = .standard) {form : RowForm}
    (keeps : form.Everywhere fun n => n.keepsNames) {row : Frame} {body out : Output}
    (drawn : r.rowForm (r.input c) c row form = .ok body)
    (h : r.row row field body = .ok out) : IsRow r c row field form out.html := by
  have inFrame := rowForm_scoped standard keeps drawn
  have controls := row_controls standard h
  have idFree := inputsNamed_of_scoped inFrame "id" (Or.inl rfl)
  have destroyFree := inputsNamed_of_scoped inFrame "_destroy" (Or.inr rfl)
  refine ⟨⟨body, out, drawn, h, rfl, controls⟩, ?_, ?_, ?_⟩
  · intro x hx
    rw [controls, List.mem_append] at hx
    rcases hx with hx | hx
    · exact inFrame.prefixed x hx
    · exact rowInputs_prefixed x hx
  · unfold inputsNamed at idFree ⊢
    rw [controls, List.filter_append, idFree, List.nil_append, filter_id]
  · unfold inputsNamed at destroyFree ⊢
    rw [controls, List.filter_append, destroyFree, List.nil_append, filter_destroy]

theorem isTemplate (standard : r.drawing.theme = .standard) {form : RowForm}
    (keeps : form.Everywhere fun n => n.keepsNames) {blank : Frame} {body out : Output}
    (drawn : r.rowForm (r.input c) c blank form = .ok body)
    (h : r.templateRow blank field body = .ok out) :
    IsTemplate r c blank field form out.html := by
  have inFrame := rowForm_scoped standard keeps drawn
  have controls := templateRow_controls standard h
  have whole := scoped_of_controls controls inFrame
  exact ⟨⟨body, out, drawn, h, rfl, controls⟩, whole.prefixed,
    inputsNamed_of_scoped whole _ (Or.inl rfl), inputsNamed_of_scoped whole _ (Or.inr rfl)⟩

/-! ## Rows apart -/

/-- The rows and the template have names of their own. -/
structure Apart (s : FieldScope) (relation : String) (drawn : List (List Html))
    (template : List Html) : Prop where
  unique : ∀ x ∈ drawn.flatMap controlsAll ++ controlsAll template, ∃ name, x.name? = some name ∧
    ∃! index, index ∈ Rows.indices relation drawn.length ∧
      (s.nested relation index).namePrefix.toList <+: name.toList
  rows : ∀ (i j : Nat) (a b : List Html), drawn[i]? = some a → drawn[j]? = some b → i ≠ j →
    ∀ x ∈ controlsAll a, ∀ y ∈ controlsAll b, x.name? ≠ y.name?
  template : ∀ (i : Nat) (a : List Html), drawn[i]? = some a →
    ∀ x ∈ controlsAll a, ∀ y ∈ controlsAll template, x.name? ≠ y.name?

theorem prefix_of_named {namePrefix name : String} {x : Html}
    (h : ∃ rest, x.name? = some (namePrefix ++ "[" ++ rest)) (named : x.name? = some name) :
    namePrefix.toList <+: name.toList := by
  obtain ⟨rest, named'⟩ := h
  rw [named] at named'
  rw [Option.some.inj named', String.toList_append, String.toList_append, List.append_assoc]
  exact List.prefix_append _ _

theorem index_mem {relation : String} {drawn : List (List Html)} {i : Nat} {part : List Html}
    (at_i : drawn[i]? = some part) : toString i ∈ Rows.indices relation drawn.length := by
  obtain ⟨bound, -⟩ := List.getElem?_eq_some_iff.mp at_i
  exact List.mem_append_left _ (List.mem_map.mpr ⟨i, List.mem_range.mpr bound, rfl⟩)

theorem sentinel_mem (relation : String) (count : Nat) :
    Rows.sentinel relation ∈ Rows.indices relation count :=
  List.mem_append_right _ List.mem_cons_self

/-- Rows whose names start with their own prefix are apart. -/
theorem apart_of_prefixed {s : FieldScope} {relation : String} {drawn : List (List Html)}
    {template : List Html}
    (rowsNamed : ∀ (i : Nat) (part : List Html), drawn[i]? = some part →
      Prefixed (s.nested relation (toString i)).namePrefix part)
    (templateNamed : Prefixed (s.nested relation (Rows.sentinel relation)).namePrefix template) :
    Apart s relation drawn template where
  unique := by
    have unique : ∀ (x : Html) (index : String), index ∈ Rows.indices relation drawn.length →
        (∃ rest, x.name? = some ((s.nested relation index).namePrefix ++ "[" ++ rest)) →
        ∃ name, x.name? = some name ∧ ∃! index, index ∈ Rows.indices relation drawn.length ∧
          (s.nested relation index).namePrefix.toList <+: name.toList := by
      rintro x index mem ⟨rest, named⟩
      refine ⟨_, named, index, ⟨mem, prefix_of_named ⟨rest, named⟩ named⟩, ?_⟩
      rintro other ⟨mem', starts⟩
      exact Rows.index_unique mem' mem starts (prefix_of_named ⟨rest, named⟩ named)
    intro x hx
    rcases List.mem_append.mp hx with hx | hx
    · obtain ⟨part, mem, hx⟩ := List.mem_flatMap.mp hx
      obtain ⟨i, at_i⟩ := List.mem_iff_getElem?.mp mem
      exact unique x _ (index_mem at_i) (rowsNamed i part at_i x hx)
    · exact unique x _ (sentinel_mem relation _) (templateNamed x hx)
  rows := by
    intro i j a b at_i at_j other x hx y hy same
    obtain ⟨rest, named⟩ := rowsNamed i a at_i x hx
    have starts := prefix_of_named ⟨rest, named⟩ named
    have starts' := prefix_of_named (rowsNamed j b at_j y hy) (same ▸ named)
    exact other (Text.numeral_injective
      (Rows.index_unique (index_mem at_i) (index_mem at_j) starts starts'))
  template := by
    intro i a at_i x hx y hy same
    obtain ⟨rest, named⟩ := rowsNamed i a at_i x hx
    have starts := prefix_of_named ⟨rest, named⟩ named
    have starts' := prefix_of_named (templateNamed y hy) (same ▸ named)
    -- a name of both would have a numeral for its sentinel
    have eq := Rows.index_unique (index_mem at_i) (sentinel_mem relation _) starts starts'
    exact Rows.numeral_ne_sentinel [] [] (congrArg (String.toList · ++ []) eq)

/-! ## The template -/

/-- The contexts differ in record, errors and submitted values at most, and not in whether a record
is edited. -/
structure SameMarks (c c' : Context) : Prop where
  modelName : c.modelName = c'.modelName
  required : c.required = c'.required
  today : c.today = c'.today
  mode : c.mode = c'.mode
  csrfToken : c.csrfToken = c'.csrfToken
  isEditing : c.isEditing = c'.isEditing

/-- The choices of the node depend on the record and the marks of the context alone. -/
def ReadsMarks (r : Renderer) : Form.Node → Prop
  | .input _ o => ∀ (c c' : Context) (record : Value), SameMarks c c' →
      r.itemsOf o.collection c record = r.itemsOf o.collection c' record
  | _ => True

theorem describe_congr {c' : Context} (same : SameMarks c c') (hidden : f.bindErrors = false)
    (field key : String) (o : FieldOptions) :
    r.describe c f field key o = r.describe c' f field key o := by
  simp [describe, errorsOf, hidden, isVisible, same.required, same.isEditing]

/-- Where errors are not shown, an input depends on the marks of the context alone. -/
theorem input_congr {c' : Context} (same : SameMarks c c') (hidden : f.bindErrors = false)
    {o : FieldOptions} (fixed : r.ReadsMarks (.input field o)) :
    r.input c f field o = r.input c' f field o := by
  have items : r.itemsOf o.collection c f.record = r.itemsOf o.collection c' f.record :=
    fixed c c' f.record same
  simp only [input, control, association, manyControl, singleControl, scalarControl,
    describe_congr same hidden, items, listenersOf, same.modelName, same.today]

/-- Two walks without shown errors, from one frame and for contexts with the same marks, draw the
same. -/
theorem marks_simulation {c' : Context} (same : SameMarks c c') :
    Simulation r (r.input c) (r.input c') c c' (fun f f' => f = f')
      (fun n f f' => f = f' ∧ f.bindErrors = false ∧ n.Everywhere r.ReadsMarks)
      (fun _ out out' => out = out') (fun _ out out' => out = out') := by
  apply Simulation.of_eq
  · rintro f field o ⟨hidden, fixed⟩
    exact input_congr same hidden (Node.everywhere_self fixed)
  · exact same.isEditing
  · rintro f label body o ⟨hidden, fixed⟩ n hn
    exact ⟨hidden, Node.everywhere_group fixed n hn⟩
  · rintro f body ⟨hidden, fixed⟩ n hn
    exact ⟨hidden, Node.everywhere_actions fixed n hn⟩
  · rintro f field rows o ⟨-, fixed⟩ row hidden
    exact RowForm.met_of_everywhere (Node.everywhere_rows fixed row.record) fun n hn =>
      ⟨hidden, hn⟩

/-- The frame of the template is the same for frames of one model and scope. -/
theorem templateFrame_congr {f' : Frame} {rel rel' : Relation} (model : f'.model = f.model)
    (scope : f'.scope = f.scope) (found : r.relation f field = .ok rel)
    (found' : r.relation f' field = .ok rel') :
    templateFrame rel' f' field = templateFrame rel f field := by
  obtain ⟨⟨a, assoc, related⟩, -, -⟩ := relation_inv found
  obtain ⟨⟨a', assoc', related'⟩, -, -⟩ := relation_inv found'
  rw [model, assoc] at assoc'
  cases assoc'
  simp only [templateFrame, related, related', scope]

/-- **The rows of a relation.** -/
theorem hasMany_rows (r : Renderer) (standard : r.drawing.theme = .standard) (c : Context)
    (f : Frame) (field : String) (rows : Value → RowForm) (o : FieldOptions)
    (keeps : ∀ record, (rows record).Everywhere fun n => n.keepsNames) (out : Output)
    (h : r.node (r.input c) c f (.hasMany field rows o) = .ok out) :
    ∃ rel drawn template, r.relation f field = .ok rel ∧
      (f.record.field field).membersOrNone = .ok rel.records ∧
      out.html = blockIn f field (joinLines drawn) template ∧
      controlsAll out.html = drawn.flatMap controlsAll ++ controlsAll template ∧
      drawn.length = rel.records.length ∧
      (∀ (i : Nat) (record : Value), rel.records[i]? = some record →
        ∃ part, drawn[i]? = some part ∧
          IsRow r c (rowFrame rel f field i record) field (rows record) part) ∧
      IsTemplate r c (templateFrame rel f field) field (rows .none) template ∧
      Apart f.scope field drawn template ∧
      ((rows .none).Everywhere r.ReadsMarks →
        ∀ (c' : Context) (f' : Frame) (out' : Output), SameMarks c c' → f'.model = f.model →
          f'.scope = f.scope → r.node (r.input c') c' f' (.hasMany field rows o) = .ok out' →
          ∃ drawn', out'.html = blockIn f field (joinLines drawn') template) := by
  obtain ⟨rel, drawn, template, found, length, each, ⟨blank, blankDrawn, templateDrawn⟩, block⟩ :=
    hasMany_inv h
  have html := hasMany_html standard block
  have rowParts : ∀ (i : Nat) (record : Value), rel.records[i]? = some record →
      ∃ part, (drawn.map (·.html))[i]? = some part ∧
        IsRow r c (rowFrame rel f field i record) field (rows record) part := by
    intro i record at_i
    obtain ⟨body, part, at_i', bodyDrawn, rowDrawn⟩ := each i record at_i
    exact ⟨part.html, by simp [at_i'], isRow standard (keeps record) bodyDrawn rowDrawn⟩
  have templatePart := isTemplate standard (keeps .none) blankDrawn templateDrawn
  refine ⟨rel, drawn.map (·.html), template.html, found, (relation_inv found).2.1, html, ?_,
    by simpa using length, rowParts, templatePart, apart_of_prefixed ?_ templatePart.names, ?_⟩
  · rw [html, blockIn, blockMarkup_controls, controlsAll_joinLines]
  · intro i part at_i
    obtain ⟨bound, -⟩ := List.getElem?_eq_some_iff.mp at_i
    rw [List.length_map, length] at bound
    obtain ⟨part', at_i', rowPart⟩ := rowParts i _ (List.getElem?_eq_getElem bound)
    rw [at_i] at at_i'
    cases at_i'
    exact rowPart.names
  · intro fixed c' f' out' same model scope h'
    obtain ⟨rel', drawn', template', found', -, -, ⟨blank', blankDrawn', templateDrawn'⟩, block'⟩ :=
      hasMany_inv h'
    have frames := templateFrame_congr model scope found found'
    have met : RowFormMet (fun n f f' => f = f' ∧ f.bindErrors = false ∧
        n.Everywhere r.ReadsMarks) (templateFrame rel f field) (templateFrame rel f field)
        (rows .none) :=
      rowFormMet_of_everywhere fixed (fun n hn => ⟨rfl, rfl, hn⟩) rfl
    -- both templates are drawn from one frame, for contexts with the same marks
    obtain ⟨_, sameBlank, rfl⟩ :=
      ((marks_simulation same).rowForm_alike (rows .none) met).exists_of_ok blankDrawn
    rw [frames, sameBlank] at blankDrawn'
    cases blankDrawn'
    rw [frames, templateDrawn] at templateDrawn'
    cases templateDrawn'
    refine ⟨drawn'.map (·.html), ?_⟩
    rw [hasMany_html standard block', blockIn, blockIn, scope]

/-- A contact with two phones, one of which has no identity. -/
def twoPhones : Context where
  record := .table [(.text "phones", .list [
    .table [(.text "id", .int 7), (.text "number", .text "1")],
    .table [(.text "number", .text "2")]])]
  modelName := "contact"
  params := []
  errors := none
  required := []
  today := .first
  mode := .edit
  csrfToken := none

theorem hasMany_rows_twoPhones :
    ∃ out drawn template, addressBook.node (addressBook.input twoPhones) twoPhones
        (.ofContext twoPhones) (.hasMany "phones" (fun _ => .nodes [.input "number" .standard])
          .standard) = .ok out ∧
      out.html = blockIn (.ofContext twoPhones) "phones" (joinLines drawn) template ∧
      drawn.length = 2 ∧ Apart (.ofModel "contact") "phones" drawn template := by
  obtain ⟨out, drawn⟩ : ∃ out, addressBook.node (addressBook.input twoPhones) twoPhones
      (.ofContext twoPhones) (.hasMany "phones" (fun _ => .nodes [.input "number" .standard])
        .standard) = .ok out := exists_of_isOk (by decide +kernel)
  have keeps : ∀ _ : Value, (RowForm.nodes [.input "number" .standard]).Everywhere fun n =>
      n.keepsNames := fun _ => ⟨rfl, trivial⟩
  obtain ⟨rel, rows, template, -, records, html, -, length, -, -, apart, -⟩ :=
    hasMany_rows addressBook rfl twoPhones (.ofContext twoPhones) "phones" _ .standard keeps out
      drawn
  have two : rel.records.length = 2 := congrArg List.length (Except.ok.inj records).symm
  exact ⟨out, rows, template, drawn, html, length.trans two, apart⟩

end Render.Renderer

end Formwright
