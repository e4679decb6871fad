import Formwright.Proofs.Render.Hidden
import Formwright.Proofs.Render.Names
import Formwright.Proofs.Render.WellFormed

/-!
# Hiding is only presentation

A node that is not displayed is drawn like any other one, with one attribute more on its item or
group. So the markup of a form with that attribute deleted everywhere is the markup of the form in
which all nodes are displayed, and both have the same script.

The two forms are compared by a simulation, for which they have to be walks of one tree: displaying
all nodes of a tree (`Tree.revealed`) draws what the tree draws while a record is edited, if every
input is displayed as well (`node_revealed`).

Which items and groups are hidden is read off the tree, the parameters and what was submitted
(`Renderer.exposures`, `node_exposures`).

- `form_revealed`: a form and the form in which everything is displayed.
- `form_exposures`: the items and groups of a form that are hidden.
- `hiding_presents`.
-/

namespace Formwright

/-! ## Trees in which everything is displayed -/

/-- The options of a node that is displayed. -/
def FieldOptions.displayed (o : FieldOptions) : FieldOptions := { o with display := true }

namespace Form

mutual

/-- The node with everything displayed. -/
def Node.revealed : Node → Node
  | .input field o => .input field o.displayed
  | .fieldset label body o => .fieldset label (Node.allRevealed body) o.displayed
  | .hasMany field rows o => .hasMany field (fun record => (rows record).revealed) o.displayed
  | .actions body => .actions (Node.allRevealed body)
  | .content content isMarkup => .content content isMarkup
  | .script script => .script script

/-- Nodes with everything displayed. -/
def Node.allRevealed : List Node → List Node
  | [] => []
  | n :: rest => n.revealed :: Node.allRevealed rest

/-- The nodes of a row with everything displayed. -/
def RowForm.revealed : RowForm → RowForm
  | .nodes body => .nodes (Node.allRevealed body)
  | .fault fault => .fault fault

end

/-- The tree with everything displayed. -/
def Tree.revealed (t : Tree) : Tree := { t with nodes := Node.allRevealed t.nodes }

end Form

namespace Render

open Form Html Outcome Template Text

namespace Renderer

variable {r : Renderer} {c c' : Context} {f : Frame} {field : String} {o : FieldOptions}

section Walk

variable (draw : Drawer)

mutual

/-- A tree with everything displayed is drawn like the tree itself while a record is edited, with
inputs that are displayed. -/
theorem node_revealed (editing : c'.isEditing = true) : ∀ (n : Form.Node) (f : Frame),
    r.node draw c f n.revealed =
      r.node (fun f field o => draw f field o.displayed) c' f n
  | .input field o, f => rfl
  | .fieldset label body o, f => by
    have seen : ∀ out : Output,
        r.fieldset c label o.displayed out = r.fieldset c' label o out := by
      intro out
      simp [fieldset, FieldOptions.displayed, editing]
    simp only [Node.revealed, node, nodes_revealed editing body f, seen]
  | .hasMany field rows o, f => by
    simp only [Node.revealed, node, fun record => rowForm_revealed editing (rows record)]
  | .actions body, f => by
    simp only [Node.revealed, node, nodes_revealed editing body f]
  | .content content isMarkup, f => by simp only [Node.revealed, node]
  | .script script, f => by simp only [Node.revealed, node]

theorem nodes_revealed (editing : c'.isEditing = true) : ∀ (ns : List Form.Node) (f : Frame),
    r.nodes draw c f (Node.allRevealed ns) =
      r.nodes (fun f field o => draw f field o.displayed) c' f ns
  | [], f => by simp only [Node.allRevealed, nodes]
  | n :: rest, f => by
    simp only [Node.allRevealed, nodes, node_revealed editing n f, nodes_revealed editing rest f]

theorem rowForm_revealed (editing : c'.isEditing = true) : ∀ (form : RowForm) (f : Frame),
    r.rowForm draw c f form.revealed =
      r.rowForm (fun f field o => draw f field o.displayed) c' f form
  | .nodes body, f => by
    simp only [RowForm.revealed, rowForm, nodes_revealed editing body f]
  | .fault fault, f => by simp only [RowForm.revealed, rowForm]

end

end Walk

/-! ## Inputs that are displayed -/

/-- What is shown of a field that is displayed. -/
def Shown.seen (shown : Shown) : Shown :=
  { shown with descriptor := { shown.descriptor with visible := true } }

theorem describe_displayed (key : String) :
    r.describe c f field key o.displayed =
      (r.describe c f field key o).map fun desc => { desc with visible := true } := by
  unfold describe
  cases r.errorsOf c f field <;> rfl

theorem manyControl_displayed (items : List Value) :
    r.manyControl c f field o.displayed items =
      (r.manyControl c f field o items).map Shown.seen := by
  unfold manyControl
  rw [describe_displayed]
  cases r.describe c f field (idsKey field) o with
  | error e => rfl
  | ok desc =>
    cases r.selectedIds f field with
    | error e => rfl
    | ok selected =>
      -- the control is drawn without looking whether it is seen
      have drawn : r.drawing.many { desc with visible := true, name := desc.name ++ "[]" } items
            o.displayed r.schema.identity selected =
          r.drawing.many { desc with name := desc.name ++ "[]" } items o r.schema.identity
            selected := rfl
      simp only [Except.map, ok_bind, drawn]
      cases r.drawing.many { desc with name := desc.name ++ "[]" } items o r.schema.identity
        selected <;> rfl

theorem singleControl_displayed (items : List Value) (key : String) :
    r.singleControl c f field o.displayed items key =
      (r.singleControl c f field o items key).map Shown.seen := by
  unfold singleControl
  rw [describe_displayed]
  cases r.describe c f field key o with
  | error e => rfl
  | ok desc =>
    by_cases literal : isLiteralCollection items = true
    · have drawn : r.drawing.literalSelect { desc with visible := true } items
          o.displayed = r.drawing.literalSelect desc items o := rfl
      simp only [Except.map, ok_bind, if_pos literal, drawn]
      cases r.drawing.literalSelect desc items o <;> rfl
    · have drawn : r.drawing.recordSelect { desc with visible := true } items
          o.displayed r.schema.identity =
          r.drawing.recordSelect desc items o r.schema.identity := rfl
      simp only [Except.map, ok_bind, if_neg literal, drawn]
      cases r.drawing.recordSelect desc items o r.schema.identity <;> rfl

theorem scalarControl_displayed (kind : ControlKind) :
    r.scalarControl c f field o.displayed kind =
      (r.scalarControl c f field o kind).map Shown.seen := by
  unfold scalarControl
  rw [describe_displayed]
  cases r.describe c f field field o with
  | error e => rfl
  | ok desc =>
    have drawn : r.drawing.scalar kind { desc with visible := true } o.displayed
        c.today = r.drawing.scalar kind desc o c.today := by
      cases kind <;> rfl
    simp only [Except.map, ok_bind, drawn]
    cases r.drawing.scalar kind desc o c.today <;> rfl

/-- A control does not depend on whether its input is displayed; only what is known of it does. -/
theorem control_displayed (type : ScalarType) :
    r.control c f field o.displayed type =
      (r.control c f field o type).map fun drawn => (drawn.1.seen, drawn.2) := by
  have given : o.displayed.collection = o.collection := rfl
  unfold control
  rw [given]
  by_cases chosen : o.collection.isSome = true
  · rw [if_pos chosen, if_pos chosen]
    unfold association
    rw [given]
    cases r.itemsOf o.collection c f.record with
    | error e => rfl
    | ok listed =>
      cases r.schema.association? f.model field with
      | error e => rfl
      | ok assoc =>
        simp only [ok_bind]
        split
        · rw [manyControl_displayed]
          cases r.manyControl c f field o listed.1 <;> rfl
        · rw [singleControl_displayed]
          cases r.singleControl c f field o listed.1 (Schema.keyOf assoc field) <;> rfl
  · rw [if_neg chosen, if_neg chosen]
    have kind : ControlKind.resolve type o.displayed false =
        ControlKind.resolve type o false := rfl
    dsimp only
    rw [kind, scalarControl_displayed]
    cases r.scalarControl c f field o (ControlKind.resolve type o false) <;> rfl

/-- The second output is the first one without the attribute that hides. -/
structure Revealed (out out' : Output) : Prop where
  html : out'.html = revealAll out.html
  listeners : out'.listeners = out.listeners
  calls : out'.calls = out.calls

/-- An input that is displayed is drawn like one that is not, but for the attribute that hides. -/
theorem input_revealed (standard : r.drawing.theme = .standard)
    (unset : Drawing.Leaves o "style") :
    Alike Revealed (r.input c f field o) (r.input c f field o.displayed) := by
  unfold input
  refine .bind_same fun type typed => ?_
  dsimp only
  rw [control_displayed]
  cases drawn : r.control c f field o (.ofDeclared type) with
  | error e => exact .error e
  | ok found =>
    obtain ⟨shown, kind, calls⟩ := found
    have clear := drawn_exposures standard unset (control_inv typed drawn)
    simp only [Except.map, ok_bind, item_eq standard]
    refine .ok ⟨?_, rfl, rfl⟩
    rw [itemMarkup_reveal, revealAll_of_exposures _ clear]
    rfl

/-! ## Forms in which everything is displayed -/

theorem lines_reveal (parts : List Output) :
    revealAll (Output.lines parts).html =
      joinLines (parts.map fun part => revealAll part.html) := by
  rw [Output.lines, revealAll_joinLines, List.map_map]
  rfl

theorem Revealed.lines {parts parts' : List Output}
    (related : List.Forall₂ Revealed parts parts') : Revealed (.lines parts) (.lines parts') := by
  have same : ∀ {β : Type} {g g' : Output → β}, (∀ a b, Revealed a b → g' b = g a) →
      parts'.map g' = parts.map g := by
    intro β g g' each
    induction related with
    | nil => rfl
    | cons first _ ih => rw [List.map_cons, List.map_cons, ih, each _ _ first]
  constructor
  · exact (congrArg joinLines (same fun _ _ h => h.html)).trans (lines_reveal parts).symm
  · exact congrArg List.flatten (same fun _ _ h => h.listeners)
  · exact congrArg List.flatten (same fun _ _ h => h.calls)

/-- A form and the form in which everything is displayed, node by node. -/
theorem revealed_simulation (standard : r.drawing.theme = .standard)
    (editing : c'.isEditing = true) :
    Simulation r (r.input c) (fun f field o => r.input c f field o.displayed) c c'
      (fun f f' => f = f') (fun n f f' => f = f' ∧ n.Everywhere (Node.Leaves "style"))
      (fun _ => Revealed) (fun _ => Revealed) where
  input := by
    rintro f _ field o ⟨rfl, unstyled⟩
    exact input_revealed standard (Node.everywhere_self unstyled : Node.Leaves "style" _)
  content := fun _ => ⟨rfl, rfl, rfl⟩
  script := by
    intro f _ script _
    refine Alike.refl fun out drawn => ⟨?_, rfl, rfl⟩
    exact (revealAll_of_exposures _ (script_exposures standard drawn)).symm
  lines := Revealed.lines
  group := by
    rintro f _ label body o ⟨rfl, unstyled⟩ n mem
    exact ⟨rfl, Node.everywhere_group unstyled n mem⟩
  fieldset := by
    rintro f _ label body o out out' ⟨rfl, -⟩ same
    rw [fieldset_eq standard, fieldset_eq standard, editing, Bool.or_true]
    refine .ok ⟨?_, same.listeners, same.calls⟩
    exact (congrArg (fun body => [fieldsetMarkup _ true body]) same.html).trans
      fieldsetMarkup_reveal.symm
  grouped := by
    rintro f _ body ⟨rfl, unstyled⟩ n mem
    exact ⟨rfl, Node.everywhere_actions unstyled n mem⟩
  actions := by
    rintro f _ body out out' ⟨rfl, -⟩ same
    rw [actions_eq standard, actions_eq standard]
    refine .ok ⟨?_, same.listeners, same.calls⟩
    exact (congrArg (fun body => [actionsMarkup body]) same.html).trans actionsMarkup_reveal.symm
  relation := by
    rintro f _ field rows o ⟨rfl, unstyled⟩
    have met : ∀ row : Frame, BuiltMet (fun n f f' => f = f' ∧
        n.Everywhere (Node.Leaves "style")) row row rows := by
      intro row
      have below := Node.everywhere_rows unstyled row.record
      exact ⟨rfl, rowFormMet_of_everywhere below (fun n has => ⟨rfl, has⟩) rfl⟩
    refine Alike.refl fun rel found => ⟨rfl, fun i record record' at_i at_i' => ?_, rfl, met _⟩
    obtain rfl : record = record' := Option.some.inj (at_i.symm.trans at_i')
    exact ⟨rfl, met _⟩
  row := by
    rintro f _ field out out' rfl same
    rw [row_eq standard, row_eq standard]
    have html : rowIn f (r.schema.identity f.record) out'.html =
        revealAll (rowIn f (r.schema.identity f.record) out.html) := by
      rw [rowIn, rowIn, rowMarkup_reveal, same.html]
    refine .ok ?_
    cases f.record.isNone with
    | true => exact ⟨html, rfl, congrArg (_ :: ·) same.calls⟩
    | false => exact ⟨html, same.listeners, congrArg (_ :: ·) same.calls⟩
  templateRow := by
    rintro f _ field out out' rfl same
    rw [templateRow_eq standard, templateRow_eq standard]
    refine .ok ⟨?_, rfl, congrArg (_ :: ·) same.calls⟩
    exact (congrArg (rowIn f .none) same.html).trans rowMarkup_reveal.symm
  block := by
    rintro f _ field rows o rel rel' drawn drawn' template template' ⟨rfl, -⟩ _ _ related same
    rw [hasMany_drawn standard, hasMany_drawn standard]
    have listed := Revealed.lines (related.imp fun _ _ ⟨_, _, _, alike⟩ => alike)
    refine .ok ⟨?_, ?_, ?_⟩
    · have rows : joinLines (drawn'.map (·.html)) = revealAll (joinLines (drawn.map (·.html))) :=
        listed.html
      simp only [blockIn]
      rw [blockMarkup_reveal, rows, same.html]
    · exact congrArg₂ (· ++ ·) listed.listeners same.listeners
    · exact congrArg₂ (· ++ ·) listed.calls same.calls

/-- The context while a record is edited. -/
def editing (c : Context) : Context := { c with params := ("id", .int 1) :: c.params }

theorem editing_isEditing (c : Context) : (editing c).isEditing = true := rfl

/-- **A form and the form in which everything is displayed.** They end alike, and the second one is
the first one without the attribute that hides. -/
theorem form_revealed (standard : r.drawing.theme = .standard) {tree : Tree}
    (unstyled : Node.AllEverywhere (Node.Leaves "style") tree.nodes) :
    Alike (fun out shown => shown.html = revealAll out.html ∧ shown.script = out.script ∧
      shown.invocations = out.invocations) (r.form tree c) (r.form tree.revealed c) := by
  unfold form formBy
  have met : ∀ n ∈ tree.nodes, Frame.ofContext c = Frame.ofContext c ∧
      n.Everywhere (Node.Leaves "style") :=
    fun n mem => ⟨rfl, Node.allEverywhere_iff.mp unstyled n mem⟩
  have walk :=
    (revealed_simulation (c := c) standard (editing_isEditing c)).nodes_alike tree.nodes met
  rw [show tree.revealed.nodes = Node.allRevealed tree.nodes from rfl,
    nodes_revealed (r.input c) (editing_isEditing c)]
  refine walk.bind fun parts parts' _ _ related => ?_
  have same := Revealed.lines related
  obtain ⟨before, clear, drawn⟩ := form_around c.csrfToken (c.mode == .edit)
  simp only [standard, drawn, ok_bind]
  refine .ok ⟨?_, congrArg readyScript same.listeners, same.calls⟩
  rw [revealAll_append, revealAll_of_exposures before clear, same.html]

/-! ## Which items and groups are hidden -/

/-- The item of an input is hidden: the input is not displayed, no record is edited, and what was
submitted for it in its row is false or nothing. -/
def hidesItem (r : Renderer) (c : Context) (f : Frame) (field : String) (o : FieldOptions) : Bool :=
  !o.display && !(c.params.lookup "id").any Value.isTrue &&
    !(f.submitted? (r.inputKey f.model field o)).any Value.isTrue

/-- A group is hidden: it is not displayed, and no record is edited. -/
def hidesGroup (c : Context) (o : FieldOptions) : Bool :=
  !o.display && !(c.params.lookup "id").any Value.isTrue

/-- A row around its items and groups. -/
def rowExposures (row : Frame) (identity : Value) (inside : List Exposure) : List Exposure :=
  ⟨"fieldset", some row.scope.idPrefix, false⟩ ::
    (inside ++ removalExposure row.scope.idPrefix identity)

mutual

/-- The items and groups of a node, in document order. -/
def exposures (r : Renderer) (c : Context) (f : Frame) : Form.Node → List Exposure
  | .input field o =>
    [⟨"li", some (f.scope.elementId field ++ "_input"), r.hidesItem c f field o⟩]
  | .fieldset _ body o => ⟨"fieldset", none, hidesGroup c o⟩ :: exposuresAll r c f body
  | .hasMany field rows _ =>
    match r.relation f field with
    | .ok rel =>
      (rel.records.zipIdx.flatMap fun e =>
        let row := rowFrame rel f field e.2 e.1
        rowExposures row (r.schema.identity e.1) (formExposures r c row (rows e.1))) ++
      rowExposures (templateFrame rel f field) .none
        (formExposures r c (templateFrame rel f field) (rows .none))
    | .error _ => []
  | .actions body => ⟨"fieldset", none, false⟩ :: exposuresAll r c f body
  | .content _ _ => []
  | .script _ => []

/-- The items and groups of nodes in a row. -/
def exposuresAll (r : Renderer) (c : Context) (f : Frame) : List Form.Node → List Exposure
  | [] => []
  | n :: rest => exposures r c f n ++ exposuresAll r c f rest

/-- The items and groups of the nodes of a row. -/
def formExposures (r : Renderer) (c : Context) (f : Frame) : RowForm → List Exposure
  | .nodes body => exposuresAll r c f body
  | .fault _ => []

end

theorem any_isTrue (given : Option Value) :
    given.elim false Value.isTrue = given.any Value.isTrue := by
  cases given <;> rfl

theorem drawn_visible {shown : Shown} (h : Drawn r c f field o shown) :
    shown.descriptor.visible = isVisible o c f (r.inputKey f.model field o) := by
  have described : ∀ {key : String} {desc : Descriptor},
      r.describe c f field key o = .ok desc → desc.visible = isVisible o c f key := by
    intro key desc h
    obtain ⟨errors, -, h⟩ := bind_eq_ok.mp h
    cases h
    rfl
  cases h with
  | many key h => exact (described h).trans (congrArg (isVisible o c f) key.symm)
  | single h => exact described h
  | scalar key h => exact (described h).trans (congrArg (isVisible o c f) key.symm)

theorem input_exposures (standard : r.drawing.theme = .standard)
    (unset : Drawing.Leaves o "style") {out : Output} (h : r.input c f field o = .ok out) :
    Html.exposures out.html =
      [⟨"li", some (f.scope.elementId field ++ "_input"), r.hidesItem c f field o⟩] := by
  obtain ⟨kind, shown, drawn, item⟩ := input_inv h
  rw [item_eq standard] at item
  have hidden : (!shown.descriptor.visible) = r.hidesItem c f field o := by
    rw [drawn_visible drawn, isVisible, Context.isEditing, any_isTrue, any_isTrue, Bool.not_or,
      Bool.not_or, hidesItem]
  rw [← Except.ok.inj item, itemMarkup_exposures, drawn_exposures standard unset drawn, hidden]

theorem lines_exposures (parts : List Output) :
    Html.exposures (Output.lines parts).html =
      parts.flatMap fun part => Html.exposures part.html := by
  rw [Output.lines, exposures_joinLines, List.flatMap_map]

theorem drawRows_exposures {draw : Nat → Value → Except Fault Output}
    {exposed : Value × Nat → List Exposure} {records : List Value} {index : Nat}
    (each : ∀ (i : Nat) (record : Value) (part : Output), draw i record = .ok part →
      Html.exposures part.html = exposed (record, i))
    {drawn : List Output} (h : drawRows draw index records = .ok drawn) :
    (drawn.flatMap fun part => Html.exposures part.html) =
      (records.zipIdx index).flatMap exposed := by
  induction records generalizing index drawn with
  | nil => cases h; rfl
  | cons record rest ih =>
    obtain ⟨part, drawnPart, h⟩ := bind_eq_ok.mp h
    obtain ⟨others, drawnRest, h⟩ := bind_eq_ok.mp h
    cases h
    rw [List.flatMap_cons, List.zipIdx_cons, List.flatMap_cons, each index record part drawnPart,
      ih drawnRest]

mutual

/-- The items and groups of a node are those of its inputs and groups. -/
theorem node_exposures (standard : r.drawing.theme = .standard) : ∀ (n : Form.Node) {f : Frame},
    n.Everywhere (Node.Leaves "style") → ∀ {out : Output},
    r.node (r.input c) c f n = .ok out → Html.exposures out.html = r.exposures c f n
  | .input field o, f, unstyled, out, h => by
    simp only [node] at h
    exact input_exposures standard unstyled h
  | .fieldset label body o, f, unstyled, out, h => by
    simp only [node] at h
    obtain ⟨parts, drawn, h⟩ := bind_eq_ok.mp h
    rw [fieldset_eq standard] at h
    cases h
    have hidden : (!(o.display || c.isEditing)) = hidesGroup c o := by
      rw [Context.isEditing, any_isTrue, Bool.not_or, hidesGroup]
    rw [exposures, ← nodes_exposures standard body (Node.everywhere_group unstyled) drawn, ← hidden]
    exact fieldsetMarkup_exposures
  | .actions body, f, unstyled, out, h => by
    simp only [node] at h
    obtain ⟨parts, drawn, h⟩ := bind_eq_ok.mp h
    rw [actions_eq standard] at h
    cases h
    rw [exposures, ← nodes_exposures standard body (Node.everywhere_actions unstyled) drawn]
    exact actionsMarkup_exposures
  | .hasMany field rows o, f, unstyled, out, h => by
    obtain ⟨rel, drawn, blank, template, found, rowsDrawn, blankDrawn, templateDrawn, h⟩ :=
      node_hasMany_inv h
    have below := Node.everywhere_rows unstyled
    have rowsExposed : (drawn.flatMap fun part => Html.exposures part.html) =
        rel.records.zipIdx.flatMap fun e => rowExposures (rowFrame rel f field e.2 e.1)
          (r.schema.identity e.1) (r.formExposures c (rowFrame rel f field e.2 e.1) (rows e.1)) := by
      refine drawRows_exposures (fun i record part drawnPart => ?_) rowsDrawn
      obtain ⟨body, bodyDrawn, rowDrawn⟩ := bind_eq_ok.mp drawnPart
      rw [row_eq standard] at rowDrawn
      cases rowDrawn
      rw [← rowForm_exposures standard (rows record) (below record) bodyDrawn]
      exact rowMarkup_exposures
    have templateExposed : Html.exposures template.html = rowExposures (templateFrame rel f field)
        .none (r.formExposures c (templateFrame rel f field) (rows .none)) := by
      rw [templateRow_eq standard] at templateDrawn
      cases templateDrawn
      rw [← rowForm_exposures standard (rows .none) (below .none) blankDrawn]
      exact rowMarkup_exposures
    rw [hasMany_html standard h, blockIn, blockMarkup_exposures, exposures_joinLines,
      List.flatMap_map, rowsExposed, templateExposed]
    simp only [exposures, found]
  | .content content isMarkup, f, unstyled, out, h => by
    simp only [node] at h
    cases h
    rfl
  | .script script, f, unstyled, out, h => by
    simp only [node] at h
    exact script_exposures standard h

theorem nodes_exposures (standard : r.drawing.theme = .standard) :
    ∀ (ns : List Form.Node) {f : Frame},
    (∀ n ∈ ns, n.Everywhere (Node.Leaves "style")) → ∀ {parts : List Output},
    r.nodes (r.input c) c f ns = .ok parts →
    Html.exposures (Output.lines parts).html = r.exposuresAll c f ns
  | [], f, _, parts, h => by
    simp only [nodes] at h
    cases h
    rfl
  | n :: rest, f, unstyled, parts, h => by
    obtain ⟨first, others, drawn, drawnRest, rfl⟩ := nodes_cons_inv h
    have below : ∀ m ∈ rest, m.Everywhere (Node.Leaves "style") :=
      fun m mem => unstyled m (List.mem_cons_of_mem n mem)
    rw [exposuresAll, ← node_exposures standard n (unstyled n List.mem_cons_self) drawn,
      ← nodes_exposures standard rest below drawnRest, lines_exposures, lines_exposures,
      List.flatMap_cons]

theorem rowForm_exposures (standard : r.drawing.theme = .standard) :
    ∀ (form : RowForm) {f : Frame}, form.Everywhere (Node.Leaves "style") →
    ∀ {out : Output}, r.rowForm (r.input c) c f form = .ok out →
    Html.exposures out.html = r.formExposures c f form
  | .nodes body, f, unstyled, out, h => by
    simp only [rowForm] at h
    obtain ⟨parts, drawn, h⟩ := bind_eq_ok.mp h
    cases h
    exact nodes_exposures standard body (Node.allEverywhere_iff.mp unstyled) drawn
  | .fault fault, f, _, out, h => by
    simp only [rowForm] at h
    cases h

end

/-- The items and groups of a form are those of its tree. -/
theorem form_exposures (standard : r.drawing.theme = .standard) {tree : Tree}
    (unstyled : Node.AllEverywhere (Node.Leaves "style") tree.nodes) {out : Rendered}
    (h : r.form tree c = .ok out) :
    Html.exposures out.html = r.exposuresAll c (.ofContext c) tree.nodes := by
  obtain ⟨parts, drawn, h⟩ := bind_eq_ok.mp h
  obtain ⟨html, filled, h⟩ := bind_eq_ok.mp h
  cases h
  obtain ⟨before, clear, around⟩ := form_around c.csrfToken (c.mode == .edit)
  rw [standard, around] at filled
  cases filled
  rw [exposures_append, clear, List.nil_append,
    nodes_exposures standard tree.nodes (Node.allEverywhere_iff.mp unstyled) drawn]

theorem drawn_name {shown : Shown} (h : Drawn r c f field o shown) : ∃ rest,
    shown.descriptor.name = f.scope.elementName (r.inputKey f.model field o) ++ rest := by
  cases h with
  | many key described => exact ⟨"[]", by rw [key, ← describe_name described]⟩
  | single described => exact ⟨"", by rw [describe_name described, String.append_empty]⟩
  | scalar key described => exact ⟨"", by rw [key, describe_name described, String.append_empty]⟩

/-- **Hiding is only presentation.** The markup of a form without the attribute that hides is the
markup of the form in which everything is displayed, and both have the same script. The items and
groups that are hidden are those that are not displayed while nothing is edited, and of the items
only those for which nothing true was submitted in their rows. What was submitted for an item is
looked up under the key that its control is named for. -/
theorem hiding_presents (r : Renderer) (standard : r.drawing.theme = .standard) (tree : Tree)
    (treePlain : Node.AllEverywhere (fun n => n.isPlain) tree.nodes)
    (unstyled : Node.AllEverywhere (Node.Leaves "style") tree.nodes) (c : Context)
    (plain : c.IsPlain) :
    Alike (fun out shown => replaceAll " style=\"display: none\"" "" out.markup = shown.markup ∧
        out.script = shown.script ∧ out.invocations = shown.invocations)
      (r.form tree c) (r.form tree.revealed c) ∧
    (∀ out, r.form tree c = .ok out →
      Html.exposures out.html = r.exposuresAll c (.ofContext c) tree.nodes) ∧
    ∀ f field o out, r.input c f field o = .ok out → ∃ shown, Drawn r c f field o shown ∧
      (∃ rest, shown.descriptor.name = f.scope.elementName (r.inputKey f.model field o) ++ rest) ∧
      (Drawing.Leaves o "name" → ∀ x ∈ controlsAll out.html, ∃ rest,
        x.name? = some (f.scope.elementName (r.inputKey f.model field o) ++ rest)) := by
  refine ⟨?_, fun out => form_exposures standard unstyled, fun f field o out h => ?_⟩
  · refine (form_revealed standard unstyled).ended.mono ?_
    rintro out shown ⟨⟨html, script, invocations⟩, drawn, -⟩
    have clean := form_clean standard treePlain plain drawn
    refine ⟨?_, script.symm, invocations.symm⟩
    rw [Rendered.markup, Rendered.markup, html]
    exact replaceAll_hidingText clean
  · obtain ⟨kind, shown, drawn, -⟩ := input_inv h
    refine ⟨shown, drawn, drawn_name drawn, fun unset x hx => ?_⟩
    obtain ⟨rest, named, -⟩ := input_named standard unset h x hx
    exact ⟨rest, named⟩

/-- A form that displays neither the names of contacts nor the numbers of their phones. -/
def shyForm : Tree :=
  let undisplayed : FieldOptions := { FieldOptions.standard with display := false }
  ⟨"contact", [
    .input "name" undisplayed,
    .fieldset "Again" [.input "name" .standard] undisplayed,
    .hasMany "phones" (fun _ => .nodes [.input "number" undisplayed]) .standard]⟩

/-- A contact with two phones, for the second of which a number was submitted. -/
def numberSubmitted : Context := { twoPhones with
  params := [("contact", .table [(.text "name", .text ""), (.text "phones_attributes",
    .table [(.text "1", .table [(.text "number", .text "555")])])])] }

theorem hiding_presents_shyForm :
    Node.AllEverywhere (fun n => n.isPlain) shyForm.nodes ∧
    Node.AllEverywhere (Node.Leaves "style") shyForm.nodes ∧ numberSubmitted.IsPlain ∧
    ∃ out shown, addressBook.form shyForm numberSubmitted = .ok out ∧
      addressBook.form shyForm.revealed numberSubmitted = .ok shown ∧
      replaceAll " style=\"display: none\"" "" out.markup = shown.markup ∧
      out.script = shown.script ∧
      ((Html.exposures out.html).filter (·.hidden)).map (·.id) = [
        some "contact_name_input", none, some "contact_phones_attributes_0_number_input",
        some "contact_phones_attributes_NEW_PHONE_RECORD_number_input"] := by
  have plain : numberSubmitted.IsPlain := ⟨by decide, by decide, nofun⟩
  obtain ⟨out, drawn⟩ : ∃ out, addressBook.form shyForm numberSubmitted = .ok out :=
    exists_of_isOk (by decide +kernel)
  have treePlain : Node.AllEverywhere (fun n => n.isPlain) shyForm.nodes :=
    ⟨rfl, ⟨rfl, rfl, trivial⟩, ⟨rfl, fun _ => ⟨rfl, trivial⟩⟩, trivial⟩
  have unstyled : Node.AllEverywhere (Node.Leaves "style") shyForm.nodes := by
    simp [shyForm, Node.AllEverywhere, Node.Everywhere, RowForm.Everywhere, Node.Leaves,
      Drawing.Leaves, FieldOptions.standard]
  obtain ⟨alike, exposed, -⟩ := hiding_presents addressBook rfl shyForm treePlain unstyled
    numberSubmitted plain
  obtain ⟨shown, drawnShown, markup, script, -⟩ := alike.exists_of_ok drawn
  refine ⟨treePlain, unstyled, plain, out, shown, drawn, drawnShown, markup, script, ?_⟩
  rw [exposed out drawn]
  decide +kernel

end Renderer

end Render

end Formwright
