import Formwright.Proofs.Render.ErrorSpots
import Formwright.Proofs.Render.Listeners
import Formwright.Proofs.Render.Places
import Formwright.Proofs.Render.RecordedErrors

/-!
# Errors of fields

Every error that is recorded for a form is shown at the field it belongs to and nowhere else. What
is drawn depends on the errors under each key alone, not on how errors of several keys stand among
each other; the item of an input outside rows shows the errors under the key of its field, one
sentence for each; and inputs in rows show none.

- `Renderer.form_errors`: the same errors under every key draw the same form.
- `Renderer.Lists`: an item with the errors of its field.
- `nodes_listed`, `rows_spotless`: outside rows and in them.
- `errors_reach_fields`.
-/

namespace Formwright

open Form Html Outcome Template

/-! ## The same errors -/

/-- What is shown of a field is the same, and so are its errors if none known count as none. -/
structure Descriptor.Like (desc desc' : Descriptor) : Prop where
  rest : desc' = { desc with errors := desc'.errors }
  errors : desc.errors.getD [] = desc'.errors.getD []

theorem Descriptor.hasErrors_eq (desc : Descriptor) :
    desc.hasErrors = !(desc.errors.getD []).isEmpty := by
  unfold hasErrors
  cases desc.errors <;> rfl

namespace Descriptor.Like

variable {desc desc' : Descriptor} {d : Drawing}

theorem renamed (like : Descriptor.Like desc desc') (mark : String) :
    Descriptor.Like { desc with name := desc.name ++ mark }
      { desc' with name := desc'.name ++ mark } := by
  obtain ⟨rest, errors⟩ := like
  refine ⟨?_, errors⟩
  rw [rest]

theorem hasErrors (like : Descriptor.Like desc desc') : desc.hasErrors = desc'.hasErrors := by
  rw [hasErrors_eq, hasErrors_eq, like.errors]

theorem drawnErrors (like : Descriptor.Like desc desc') :
    d.errors desc.errors = d.errors desc'.errors := by
  have known : ∀ errors : Option (List Value),
      d.errors errors = d.errors (some (errors.getD [])) := by
    intro errors
    rcases errors with _ | _ | ⟨first, rest⟩ <;> rfl
  rw [known, like.errors, ← known]

theorem withErrors (like : Descriptor.Like desc desc') (body : Except Fault (List Html)) :
    d.withErrors desc body = d.withErrors desc' body := by
  unfold Drawing.withErrors
  rw [like.drawnErrors]

theorem scalar (like : Descriptor.Like desc desc') (kind : ControlKind) (o : FieldOptions)
    (today : Date) : d.scalar kind desc o today = d.scalar kind desc' o today := by
  have bare : d.bare kind desc o today = d.bare kind desc' o today := by
    rw [like.rest]
    cases kind <;> rfl
  unfold Drawing.scalar
  rw [bare, like.withErrors]

theorem select (like : Descriptor.Like desc desc') (choices : List SelectOption)
    (o : FieldOptions) : d.select desc choices o = d.select desc' choices o := by
  unfold Drawing.select
  rw [like.withErrors, like.rest]

theorem literalSelect (like : Descriptor.Like desc desc') (items : List Value) (o : FieldOptions) :
    d.literalSelect desc items o = d.literalSelect desc' items o := by
  have choices : Drawing.literalChoices desc items = Drawing.literalChoices desc' items := by
    rw [like.rest]
    rfl
  unfold Drawing.literalSelect
  rw [choices]
  exact congrArg _ (funext fun choices => like.select choices o)

theorem recordSelect (like : Descriptor.Like desc desc') (items : List Value) (o : FieldOptions)
    (identity : Value → Value) :
    d.recordSelect desc items o identity = d.recordSelect desc' items o identity := by
  have choices : Drawing.recordChoices desc items o identity =
      Drawing.recordChoices desc' items o identity := by
    rw [like.rest]
    rfl
  unfold Drawing.recordSelect
  rw [choices, like.select]

theorem many (like : Descriptor.Like desc desc') (items : List Value) (o : FieldOptions)
    (identity : Value → Value) (selected : List Value) :
    d.many desc items o identity selected = d.many desc' items o identity selected := by
  unfold Drawing.many
  refine congrArg _ (funext fun texts => ?_)
  dsimp only
  rw [like.withErrors, like.rest]
  rfl

end Descriptor.Like

namespace Render

/-- The contexts record the same errors under every key, and differ in nothing else. -/
structure SameErrors (c c' : Context) : Prop where
  rest : c' = { c with errors := c'.errors }
  recorded : ∀ key, Errors.recorded c.errors key = Errors.recorded c'.errors key

namespace Renderer

variable {r : Renderer} {c c' : Context} {f : Frame} {field : String} {o : FieldOptions}

theorem describe_like (same : SameErrors c c') (key : String) :
    Alike Descriptor.Like (r.describe c f field key o) (r.describe c' f field key o) := by
  have errors : Alike (fun errors errors' => errors.getD [] = errors'.getD [])
      (r.errorsOf c f field) (r.errorsOf c' f field) := by
    unfold errorsOf
    split
    · cases r.schema.storageKey f.model field with
      | error e => exact .error e
      | ok key => exact .ok (same.recorded key)
    · exact .ok rfl
  unfold describe
  refine errors.bind fun errors errors' _ _ like => .ok ⟨?_, like⟩
  rw [same.rest]
  rfl

/-- What is shown is the same but for the difference between no errors and none known. -/
structure Shown.Like (shown shown' : Shown) : Prop where
  descriptor : shown.descriptor.Like shown'.descriptor
  html : shown.html = shown'.html

theorem manyControl_like (same : SameErrors c c') (items : List Value) :
    Alike Shown.Like (r.manyControl c f field o items) (r.manyControl c' f field o items) := by
  refine (describe_like same (idsKey field)).bind fun desc desc' _ _ like => ?_
  refine .bind_same fun selected _ => ?_
  rw [(like.renamed "[]").many]
  exact .bind_same fun html _ => .ok ⟨like.renamed "[]", rfl⟩

theorem singleControl_like (same : SameErrors c c') (items : List Value) (key : String) :
    Alike Shown.Like (r.singleControl c f field o items key)
      (r.singleControl c' f field o items key) := by
  refine (describe_like same key).bind fun desc desc' _ _ like => ?_
  by_cases literal : isLiteralCollection items = true
  · rw [if_pos literal, if_pos literal, like.literalSelect]
    exact .bind_same fun html _ => .ok ⟨like, rfl⟩
  · rw [if_neg literal, if_neg literal, like.recordSelect]
    exact .bind_same fun html _ => .ok ⟨like, rfl⟩

theorem scalarControl_like (same : SameErrors c c') (kind : ControlKind) :
    Alike Shown.Like (r.scalarControl c f field o kind) (r.scalarControl c' f field o kind) := by
  have today : c'.today = c.today := by
    rw [same.rest]
  refine (describe_like same field).bind fun desc desc' _ _ like => ?_
  rw [like.scalar, today]
  exact .bind_same fun html _ => .ok ⟨like, rfl⟩

/-- The choices of the node do not depend on the errors. -/
def IgnoresErrors (r : Renderer) : Form.Node → Prop
  | .input _ o => ∀ (c : Context) (errors : Option (List (String × Value))) (record : Value),
      r.itemsOf o.collection { c with errors := errors } record = r.itemsOf o.collection c record
  | _ => True

theorem control_like (same : SameErrors c c') (ignores : r.IgnoresErrors (.input field o))
    (type : ScalarType) :
    Alike (fun a b => a.1.Like b.1 ∧ a.2 = b.2) (r.control c f field o type)
      (r.control c' f field o type) := by
  have items : r.itemsOf o.collection c f.record = r.itemsOf o.collection c' f.record := by
    rw [same.rest]
    exact (ignores c c'.errors f.record).symm
  unfold control
  by_cases chosen : o.collection.isSome = true
  · rw [if_pos chosen, if_pos chosen]
    refine Alike.bind (R := fun a b => a.1.Like b.1 ∧ a.2 = b.2) ?_ ?_
    · unfold association
      rw [items]
      refine .bind_same fun listed _ => .bind_same fun assoc _ => ?_
      split
      · exact (manyControl_like same listed.1).bind fun _ _ _ _ like => .ok ⟨like, rfl⟩
      · exact (singleControl_like same listed.1 _).bind fun _ _ _ _ like => .ok ⟨like, rfl⟩
    · rintro ⟨shown, calls⟩ ⟨shown', calls'⟩ - - ⟨like, rfl⟩
      exact .ok ⟨like, rfl⟩
  · rw [if_neg chosen, if_neg chosen]
    exact (scalarControl_like same _).bind fun _ _ _ _ like => .ok ⟨like, rfl⟩

theorem item_like {kind : String} {shown shown' : Shown} (like : shown.Like shown') :
    r.item f field o kind shown = r.item f field o kind shown' := by
  have rest := like.descriptor.rest
  have marks : itemClass kind shown.descriptor = itemClass kind shown'.descriptor := by
    unfold itemClass
    rw [like.descriptor.hasErrors, congrArg Descriptor.required rest]
  dsimp only [item]
  rw [marks, like.html, congrArg Descriptor.id rest, congrArg Descriptor.label rest,
    congrArg Descriptor.required rest, congrArg Descriptor.visible rest]

theorem input_errors (same : SameErrors c c') (ignores : r.IgnoresErrors (.input field o)) :
    r.input c f field o = r.input c' f field o := by
  have modelName : c'.modelName = c.modelName := by
    rw [same.rest]
  refine Alike.eq (.bind_same fun type _ => ?_)
  refine (control_like same ignores (.ofDeclared type)).bind ?_
  rintro ⟨shown, kind, calls⟩ ⟨shown', _, _⟩ - - ⟨like, ⟨⟩⟩
  have id : shown.descriptor.id = shown'.descriptor.id := by
    rw [like.descriptor.rest]
  dsimp only
  rw [item_like like, id, show r.listenersOf c field o = r.listenersOf c' field o by
    unfold listenersOf
    rw [modelName]]
  exact Alike.refl fun _ _ => rfl

/-- **The same errors.** The order of errors of different keys does not matter. -/
theorem form_errors (same : SameErrors c c') (tree : Tree)
    (ignores : Node.AllEverywhere r.IgnoresErrors tree.nodes) :
    r.form tree c = r.form tree c' := by
  have walks : Simulation r (r.input c) (r.input c') c c' (fun f f' => f = f')
      (fun n f f' => f = f' ∧ n.Everywhere r.IgnoresErrors) (fun _ out out' => out = out')
      (fun _ out out' => out = out') := by
    apply Simulation.of_eq
    · intro f field o ignores
      exact input_errors same ignores
    · rw [same.rest]
      rfl
    · exact Node.everywhere_group
    · exact Node.everywhere_actions
    · intro f field rows o ignores row _
      exact RowForm.met_of_everywhere (Node.everywhere_rows ignores row.record) fun _ hn => hn
  have met : ∀ n ∈ tree.nodes, Frame.ofContext c = Frame.ofContext c ∧
      n.Everywhere r.IgnoresErrors :=
    fun n mem => ⟨rfl, Node.allEverywhere_iff.mp ignores n mem⟩
  have nodes := walks.nodes_alike tree.nodes met
  rw [List.forall₂_eq_eq_eq] at nodes
  have frames : Frame.ofContext c' = Frame.ofContext c := by
    rw [same.rest]
    rfl
  unfold form formBy
  rw [nodes.eq, frames, same.rest]

/-! ## Inputs -/

theorem errorsOf_of_describe {key : String} {desc : Descriptor}
    (h : r.describe c f field key o = .ok desc) : r.errorsOf c f field = .ok desc.errors := by
  obtain ⟨errors, found, h⟩ := bind_eq_ok.mp h
  cases h
  exact found

/-- Every control reports the errors of its field. -/
theorem drawn_reports (standard : r.drawing.theme = .standard) {shown : Shown}
    (h : Drawn r c f field o shown) :
    r.errorsOf c f field = .ok shown.descriptor.errors ∧
      Drawing.Reports shown.descriptor.errors shown.html := by
  cases h with
  | many key described drawn =>
    have found := errorsOf_of_describe described
    exact ⟨found, Drawing.many_reports standard drawn⟩
  | single described drawn =>
    exact ⟨errorsOf_of_describe described, Drawing.select_reports standard drawn⟩
  | scalar key described drawn =>
    exact ⟨errorsOf_of_describe described, Drawing.scalar_reports standard drawn⟩

/-- An item shows some errors: it is marked if there are any, and each has a paragraph in it. -/
structure Lists (errors : List Value) (item : Html) : Prop where
  isItem : item.tag? = some "li"
  marked : item.classes.contains "error" = !errors.isEmpty
  paragraphs : ∃ sentences, errors.mapM Errors.sentence = .ok sentences ∧
    spots [item] = (if errors.isEmpty then [] else [item]) ++ sentences.map Drawing.errorParagraph

/-- The item of an input lists the errors that are known of its field. -/
theorem input_lists (standard : r.drawing.theme = .standard) {out : Output}
    (h : r.input c f field o = .ok out) :
    ∃ item errors, out.html = [item] ∧ r.errorsOf c f field = .ok errors ∧
      Lists (errors.getD []) item := by
  obtain ⟨kind, shown, drawn, filled⟩ := input_parts h
  obtain ⟨found, sentences, written, reported⟩ := drawn_reports standard drawn
  obtain ⟨item, html, isItem, marked, shows⟩ := item_spots standard filled
  have hasErrors := shown.descriptor.hasErrors_eq
  refine ⟨item, shown.descriptor.errors, html, found, isItem, marked.trans hasErrors, sentences,
    written, ?_⟩
  rw [shows, reported, hasErrors]
  cases (shown.descriptor.errors.getD []).isEmpty <;> rfl

/-! ## Rows -/

theorem lines_spots (parts : List Output) :
    spots (Output.lines parts).html = parts.flatMap fun part => spots part.html := by
  rw [Output.lines, spots_joinLines, List.flatMap_map]

/-- Where errors are not bound, none are shown. -/
theorem spotless_invariant (standard : r.drawing.theme = .standard) :
    Invariant r (r.input c) c (fun f => f.bindErrors = false) (fun _ f => f.bindErrors = false)
      (fun _ out => spots out.html = []) (fun _ out => spots out.html = []) where
  input := by
    intro f field o out hidden drawn
    obtain ⟨item, errors, html, found, -, -, sentences, written, shows⟩ :=
      input_lists standard drawn
    rw [errorsOf, hidden] at found
    cases found
    cases written
    rw [html, shows]
    rfl
  content := fun _ => rfl
  script := fun _ drawn => script_spots standard drawn
  lines := by
    intro f parts each
    rw [lines_spots]
    exact List.flatMap_eq_nil_iff.mpr each
  group := fun hidden _ _ => hidden
  fieldset := fun _ spotless drawn => (fieldset_spots standard drawn).trans spotless
  grouped := fun hidden _ _ => hidden
  actions := fun _ spotless drawn => (actions_spots standard drawn).trans spotless
  relation := by
    intro f field rows o rel _ _
    have met : ∀ row : Frame, row.bindErrors = false →
        (rows row.record).Met (fun _ f => f.bindErrors = false) row :=
      fun row hidden => RowForm.met_of_given fun _ _ => hidden
    exact ⟨fun i record _ => ⟨rfl, met _ rfl⟩, rfl, met _ rfl⟩
  row := fun _ spotless drawn => (row_spots standard drawn).trans spotless
  templateRow := fun _ spotless drawn => (templateRow_spots standard drawn).trans spotless
  block := by
    intro f field rows o rel drawn template out _ _ rowsSpotless templateSpotless drawnBlock
    rw [hasMany_spots standard drawnBlock, templateSpotless, List.append_nil]
    apply List.flatMap_eq_nil_iff.mpr
    intro part mem
    obtain ⟨i, record, -, spotless⟩ := rowsSpotless part mem
    exact spotless

/-- The rows of a relation and its template show no errors, wherever the relation stands. -/
theorem rows_spotless (standard : r.drawing.theme = .standard) {rows : Value → RowForm}
    {out : Output}
    (h : r.node (r.input c) c f (.hasMany field rows o) = .ok out) : spots out.html = [] := by
  obtain ⟨rel, drawn, template, -, length, each, ⟨blank, blankDrawn, templateDrawn⟩, block⟩ :=
    hasMany_inv h
  have spotless : ∀ {form : RowForm} {row : Frame} {body : Output}, row.bindErrors = false →
      r.rowForm (r.input c) c row form = .ok body → spots body.html = [] := by
    intro form row body hidden bodyDrawn
    refine (spotless_invariant standard).rowForm_holds ?_ bodyDrawn
    exact RowForm.met_of_given fun _ _ => hidden
  rw [hasMany_spots standard block, templateRow_spots standard templateDrawn,
    spotless rfl blankDrawn, List.append_nil]
  apply List.flatMap_eq_nil_iff.mpr
  intro part mem
  obtain ⟨i, at_i⟩ := List.mem_iff_getElem?.mp mem
  obtain ⟨bound, -⟩ := List.getElem?_eq_some_iff.mp at_i
  rw [length] at bound
  obtain ⟨body, part', at_i', bodyDrawn, rowDrawn⟩ := each i _ (List.getElem?_eq_getElem bound)
  obtain rfl : part = part' := Option.some.inj (at_i.symm.trans at_i')
  rw [row_spots standard rowDrawn]
  exact spotless rfl bodyDrawn

end Renderer

end Render

/-! ## Inputs outside rows -/

namespace Form

mutual

/-- The inputs of a node that are not in rows, with their options. -/
def Node.ownInputs : Node → List (String × FieldOptions)
  | .input field o => [(field, o)]
  | .fieldset _ body _ => Node.ownInputsAll body
  | .actions body => Node.ownInputsAll body
  | .hasMany _ _ _ => []
  | .content _ _ => []
  | .script _ => []

/-- The inputs of nodes in a row that are not in rows. -/
def Node.ownInputsAll : List Node → List (String × FieldOptions)
  | [] => []
  | n :: rest => n.ownInputs ++ Node.ownInputsAll rest

end

end Form

namespace Render.Renderer

variable {r : Renderer} {c : Context}

/-- The input is drawn as this item, which lists the errors recorded under the key of its field. -/
def ListsOwn (r : Renderer) (c : Context) (input : String × FieldOptions) (item : Html) : Prop :=
  (∃ out, r.input c (.ofContext c) input.1 input.2 = .ok out ∧ out.html = [item]) ∧
    ∃ key, r.schema.storageKey c.modelName input.1 = .ok key ∧
      Lists (Errors.recorded c.errors key) item

/-- The items of some inputs are drawn in this order, each with its errors, and no other errors are
shown. -/
def ListsAll (r : Renderer) (c : Context) (inputs : List (String × FieldOptions))
    (hs : List Html) : Prop :=
  ∃ items, List.Forall₂ (ListsOwn r c) inputs items ∧ (elementsAll items).Sublist (elementsAll hs) ∧
    spots hs = spots items

theorem ListsAll.spotless {hs : List Html} (h : spots hs = []) : ListsAll r c [] hs :=
  ⟨[], .nil, List.nil_sublist _, h⟩

theorem ListsAll.append {inputs inputs' : List (String × FieldOptions)} {hs hs' : List Html}
    (h : ListsAll r c inputs hs) (h' : ListsAll r c inputs' hs') :
    ListsAll r c (inputs ++ inputs') (hs ++ hs') := by
  obtain ⟨items, drawn, kept, shows⟩ := h
  obtain ⟨items', drawn', kept', shows'⟩ := h'
  refine ⟨items ++ items', List.rel_append drawn drawn', ?_, ?_⟩
  · rw [elementsAll_append, elementsAll_append]
    exact kept.append kept'
  · rw [spots_append, spots_append, shows, shows']

/-- More elements that show no errors do not matter. -/
theorem ListsAll.within {inputs : List (String × FieldOptions)} {hs hs' : List Html}
    (h : ListsAll r c inputs hs) (kept : (elementsAll hs).Sublist (elementsAll hs'))
    (same : spots hs' = spots hs) : ListsAll r c inputs hs' := by
  obtain ⟨items, drawn, sub, shows⟩ := h
  exact ⟨items, drawn, sub.trans kept, same.trans shows⟩

theorem input_listsAll (standard : r.drawing.theme = .standard) {field : String} {o : FieldOptions}
    {out : Output} (h : r.input c (.ofContext c) field o = .ok out) :
    ListsAll r c [(field, o)] out.html := by
  obtain ⟨item, errors, html, found, lists⟩ := input_lists standard h
  obtain ⟨key, stored, rfl⟩ := exceptMap_eq_ok.mp found
  refine ⟨[item], .cons ⟨⟨out, h, html⟩, key, stored, lists⟩ .nil, ?_, ?_⟩
  · rw [html]
  · rw [html]

mutual

/-- The items of the inputs of a node list their errors, and nothing else in it does. -/
theorem node_listed (standard : r.drawing.theme = .standard) : ∀ (n : Form.Node) {out : Output},
    r.node (r.input c) c (.ofContext c) n = .ok out → ListsAll r c n.ownInputs out.html
  | .input field o, out, h => by
    simp only [node] at h
    exact input_listsAll standard h
  | .fieldset label body o, out, h => by
    simp only [node] at h
    obtain ⟨parts, drawn, h⟩ := bind_eq_ok.mp h
    exact (nodes_listed standard body drawn).within ((fieldset_keeps h).2 standard)
      (fieldset_spots standard h)
  | .actions body, out, h => by
    simp only [node] at h
    obtain ⟨parts, drawn, h⟩ := bind_eq_ok.mp h
    exact (nodes_listed standard body drawn).within ((actions_keeps h).2 standard)
      (actions_spots standard h)
  | .hasMany field rows o, out, h => .spotless (rows_spotless standard h)
  | .content content isMarkup, out, h => by
    simp only [node] at h
    cases h
    exact .spotless rfl
  | .script script, out, h => by
    simp only [node] at h
    exact .spotless (script_spots standard h)

theorem nodes_listed (standard : r.drawing.theme = .standard) : ∀ (ns : List Form.Node)
    {parts : List Output}, r.nodes (r.input c) c (.ofContext c) ns = .ok parts →
    ListsAll r c (Node.ownInputsAll ns) (Output.lines parts).html
  | [], parts, h => by
    simp only [nodes] at h
    cases h
    exact .spotless rfl
  | n :: rest, parts, h => by
    obtain ⟨first, others, drawn, drawnRest, rfl⟩ := nodes_cons_inv h
    have whole := (node_listed standard n drawn).append (nodes_listed standard rest drawnRest)
    refine whole.within ?_ ?_
    · rw [Output.lines, Output.lines, elementsAll_joinLines, elementsAll_append,
        elementsAll_joinLines, List.map_cons, List.flatMap_cons]
    · rw [spots_append, lines_spots, lines_spots, List.flatMap_cons]

end

/-! ## The form -/

/-- **Errors reach exactly their fields.** Contexts that record the same errors under every key draw
the same form if no choices depend on the errors, and a table of errors records those of its entries. The items of the inputs outside
rows list the errors under the keys of their fields, and no other errors are shown in the form, in
particular none in the rows of a relation or in their template. -/
theorem errors_reach_fields (r : Renderer) (tree : Tree) (c : Context) :
    (Node.AllEverywhere r.IgnoresErrors tree.nodes →
      ∀ c', SameErrors c c' → r.form tree c = r.form tree c') ∧
    (∀ entries today table, Context.check entries today = .ok c →
      entries.lookup "errors" = some (.table table) → ∀ key, Errors.recorded c.errors key =
        (table.filter fun e => e.1.toText == key).flatMap fun e => Context.errorsIn e.2) ∧
    (r.drawing.theme = .standard → ∀ out, r.form tree c = .ok out →
      ListsAll r c (Node.ownInputsAll tree.nodes) out.html) ∧
    (r.drawing.theme = .standard → ∀ f field rows o out,
      r.node (r.input c) c f (.hasMany field rows o) = .ok out → spots out.html = []) := by
  refine ⟨?_, ?_, ?_, ?_⟩
  · exact fun ignores c' same => form_errors same tree ignores
  · intro entries today table checked given key
    rw [Context.check_errors checked given, Context.recorded_tabulated]
  · intro standard out h
    obtain ⟨parts, drawn, h⟩ := bind_eq_ok.mp h
    obtain ⟨html, filled, h⟩ := bind_eq_ok.mp h
    cases h
    rw [standard] at filled
    have kept := Theme.standard_sublist "form/form.html" "body" BuiltIn.form
      (by simp [Template.builtIn]) (by decide) rfl filled
    exact (nodes_listed standard tree.nodes drawn).within kept (form_fill_spots filled)
  · exact fun standard f field rows o out h => rows_spotless standard h

/-- A contact with two errors of its name and an error under the name of a field of its phones. -/
def refusedName : Context :=
  { twoPhones with errors := some [("name", .text "unique"), ("number", .text "invalid"),
      ("name", .tuple [.text "too_short", .int 8])] }

/-- The same errors in another order, the two of the name next to each other. -/
def sortedRefusal : Context :=
  { twoPhones with errors := some [("name", .text "unique"),
      ("name", .tuple [.text "too_short", .int 8]), ("number", .text "invalid")] }

theorem sortedRefusal_same : SameErrors refusedName sortedRefusal where
  rest := rfl
  recorded := by
    intro key
    simp only [refusedName, sortedRefusal, Errors.recorded, Errors.select, Option.map_some,
      Option.getD_some]
    by_cases name : key = "name"
    · subst name
      rfl
    · have differs : ("name" == key) = false := beq_eq_false_iff_ne.mpr fun same => name same.symm
      simp [List.filter_cons, differs]

/-- The order of the errors of the name and the number does not matter, and every item lists its
own. -/
theorem errors_reach_fields_refusedName :
    addressBook.form contactForm refusedName = addressBook.form contactForm sortedRefusal ∧
    ∃ out, addressBook.form contactForm refusedName = .ok out ∧
      ListsAll addressBook refusedName (Node.ownInputsAll contactForm.nodes) out.html := by
  obtain ⟨same, -, listed, -⟩ := errors_reach_fields addressBook contactForm refusedName
  obtain ⟨out, drawn⟩ : ∃ out, addressBook.form contactForm refusedName = .ok out :=
    exists_of_isOk (by decide +kernel)
  have ignores : Node.AllEverywhere addressBook.IgnoresErrors contactForm.nodes :=
    contactForm_everywhere (fun _ _ _ => rfl) (fun _ _ _ => rfl) trivial
  exact ⟨same ignores sortedRefusal sortedRefusal_same, out, drawn, listed rfl out drawn⟩

/-- The item of the name is marked and has both sentences; the rows of the phones show none. -/
example : (addressBook.form contactForm refusedName).toOption.map (fun out =>
    ((spots out.html).map tag?, (spots out.html).filterMap fun x =>
      match x with
      | .element "p" _ [.piece p] => some p.content
      | _ => none)) =
    some ([some "li", some "p", some "p"],
      ["has already been taken", "must be longer than 7"]) := by
  decide +kernel

end Render.Renderer

end Formwright
