import Formwright.Proofs.Render.Faults
import Formwright.Proofs.Render.Showable

/-!
# Whether a form can be drawn

Whether a form can be drawn is decided by the form, the schema and the theme. The inputs of a form
end alike for all records and requests, and so do the rows of a relation: the template of a row is
always drawn, and it looks up the same fields in the same order as every row before it. A form that
cannot be drawn for one record can therefore be drawn for none, and the fault is the same.

The record has to hold lists of records where the form has has-many associations, every recorded
error has to be one that can be shown, and every number has to be one that can be written. The files
that a project brings are literal text with include tags; a file that reads the data decides by it.

- `Renderer.IsTimeless`, `input_ends`, `input_fails`: inputs.
- `Renderer.IsStable`, `Renderer.HoldsLists`: what is asked of a tree and of a record.
- `node_ends`, `everyInput_settled`: nodes.
- `Theme.isLiteral`, `IsSteady`, `IsReady`: what is asked of a form, and of a request.
- `form_decided`; `errors_decide`: the errors that are not to be left out.
-/

namespace Formwright

open Form Outcome Template

/-! ## Inputs -/

namespace Render.Renderer

variable {r : Renderer} {c c' : Context} {f f' : Frame} {field : String} {o : FieldOptions}

/-- The choices are in a list that does not depend on what is rendered. -/
def HasConstantItems (r : Renderer) (o : FieldOptions) : Prop :=
  ∃ items, ∀ (c : Context) (record : Value),
    (r.itemsOf o.collection c record).map Prod.fst = .ok items

/-- The choices of the input are constant, and its control is not one of a date or a time. -/
structure IsTimeless (r : Renderer) (model field : String) (o : FieldOptions) : Prop where
  constant : r.HasConstantItems o
  timeless : ∀ kind, r.kind? model field o = some kind → kind.temporal? = none

/-- The frames are for one model and show errors or not, and all errors can be shown. -/
structure Matching (r : Renderer) (c c' : Context) (f f' : Frame) : Prop where
  model : f.model = f'.model
  bindErrors : f.bindErrors = f'.bindErrors
  shows : r.drawing.showsErrorsOf c = true
  shows' : r.drawing.showsErrorsOf c' = true

/-- What a choice of any number of members reads of the record is a list. -/
def ListsMembers (r : Renderer) (f : Frame) (field : String) (o : FieldOptions) : Prop :=
  r.picksMany f.model field o = true → (f.record.field field).membersOrNone.isOk = true

/-- An input that is no choice has constant choices. -/
theorem hasConstantItems_none (unchosen : o.collection = none) : r.HasConstantItems o :=
  ⟨[], fun _ _ => by rw [unchosen]; rfl⟩

theorem itemsOf_constant (constant : r.HasConstantItems o) :
    ∃ items, ∀ (c : Context) (record : Value), ∃ calls,
      r.itemsOf o.collection c record = .ok (items, calls) := by
  obtain ⟨items, given⟩ := constant
  refine ⟨items, fun c record => ?_⟩
  obtain ⟨⟨items', calls⟩, read, rfl⟩ := exceptMap_eq_ok.mp (given c record)
  exact ⟨calls, read⟩

theorem itemsOf_total (constant : r.HasConstantItems o) (c : Context) (record : Value) :
    (r.itemsOf o.collection c record).isOk = true := by
  obtain ⟨items, read⟩ := itemsOf_constant constant
  obtain ⟨calls, ofRecord⟩ := read c record
  rw [ofRecord]
  rfl

/-- An input that is no choice gets a control that is not one of a date or a time. -/
theorem temporal_of_isTimeless (timeless : r.IsTimeless f.model field o)
    {type : String} (typed : r.schema.fieldType f.model field = .ok type)
    (unchosen : ¬o.collection.isSome = true) :
    (ControlKind.resolve (.ofDeclared type) o false).temporal? = none := by
  have resolved : r.kind? f.model field o = some (.resolve (.ofDeclared type) o false) := by
    rw [kind?, if_neg unchosen, typed]
    rfl
  exact timeless.timeless _ resolved

theorem describe_ends (matching : r.Matching c c' f f') (key : String) :
    SameEnd (r.describe c f field key o) (r.describe c' f' field key o) := by
  have errors : SameEnd (r.errorsOf c f field) (r.errorsOf c' f' field) := by
    simp only [errorsOf, ← matching.bindErrors, ← matching.model]
    split
    · exact (SameEnd.same _).map fun _ _ _ => trivial
    · exact .ok trivial
  exact errors.thenReturn

theorem selectedIds_total (listed : (f.record.field field).membersOrNone.isOk = true) :
    ∃ ids, r.selectedIds f field = .ok ids := by
  unfold selectedIds
  split
  · exact ⟨_, rfl⟩
  · obtain ⟨related, members⟩ := exists_of_isOk listed
    exact ⟨_, by rw [members]; rfl⟩

theorem manyControl_ends (matching : r.Matching c c' f f')
    (listed : (f.record.field field).membersOrNone.isOk = true)
    (listed' : (f'.record.field field).membersOrNone.isOk = true) (items : List Value) :
    SameEnd (r.manyControl c f field o items) (r.manyControl c' f' field o items) := by
  refine (describe_ends matching (idsKey field)).bind fun desc desc' drawn drawn' _ => ?_
  have shows : r.drawing.ShowsErrors desc.errors := describe_shows matching.shows drawn
  have shows' : r.drawing.ShowsErrors desc'.errors := describe_shows matching.shows' drawn'
  have ids : SameEnd (r.selectedIds f field) (r.selectedIds f' field) :=
    .of_total (selectedIds_total listed) (selectedIds_total listed')
  refine ids.andThen fun selected selected' => SameEnd.thenReturn ?_
  apply Drawing.many_ends
  · exact shows
  · exact shows'

theorem singleControl_ends (matching : r.Matching c c' f f')
    (items : List Value) (key : String) :
    SameEnd (r.singleControl c f field o items key) (r.singleControl c' f' field o items key) := by
  refine (describe_ends matching key).bind fun desc desc' drawn drawn' _ => ?_
  have shows := describe_shows matching.shows drawn
  have shows' := describe_shows matching.shows' drawn'
  split
  · rename_i literal
    have choices : SameEnd (Drawing.literalChoices desc items)
        (Drawing.literalChoices desc' items) :=
      .of_total (Drawing.literalChoices_total literal) (Drawing.literalChoices_total literal)
    have select : SameEnd (r.drawing.literalSelect desc items o)
        (r.drawing.literalSelect desc' items o) :=
      choices.andThen fun _ _ => Drawing.select_ends shows shows' _ _
    exact select.thenReturn
  · have select : SameEnd (r.drawing.recordSelect desc items o r.schema.identity)
        (r.drawing.recordSelect desc' items o r.schema.identity) :=
      Drawing.select_ends shows shows' _ _
    exact select.thenReturn

theorem association_ends (matching : r.Matching c c' f f')
    (constant : r.HasConstantItems o) (chosen : o.collection.isSome = true)
    (listed : r.ListsMembers f field o) (listed' : r.ListsMembers f' field o) :
    SameEnd (r.association c f field o) (r.association c' f' field o) := by
  obtain ⟨items, read⟩ := itemsOf_constant constant
  obtain ⟨calls, ofRecord⟩ := read c f.record
  obtain ⟨calls', ofRecord'⟩ := read c' f'.record
  simp only [association, ofRecord, ofRecord', ok_bind, ← matching.model]
  cases found : r.schema.association? f.model field with
  | error e => exact .error e
  | ok assoc =>
    simp only [ok_bind]
    split
    · rename_i many
      have picks : r.picksMany f.model field o = true := by
        simp [picksMany, chosen, assoc?_of_ok found, many]
      have picks' : r.picksMany f'.model field o = true := by
        rw [← matching.model]
        exact picks
      exact (manyControl_ends matching (listed picks) (listed' picks') items).thenReturn
    · exact (singleControl_ends matching items (Schema.keyOf assoc field)).thenReturn

theorem scalarControl_ends (matching : r.Matching c c' f f')
    {kind : ControlKind} (timeless : kind.temporal? = none) :
    SameEnd (r.scalarControl c f field o kind) (r.scalarControl c' f' field o kind) := by
  refine (describe_ends matching field).bind fun desc desc' drawn drawn' _ => ?_
  have shows := describe_shows matching.shows drawn
  have shows' := describe_shows matching.shows' drawn'
  have scalar : SameEnd (r.drawing.scalar kind desc o c.today)
      (r.drawing.scalar kind desc' o c'.today) :=
    Drawing.withErrors_ends shows shows' (Drawing.bare_ends timeless _ _)
  exact scalar.thenReturn

/-- **Two inputs of one declaration** end alike, whatever their records and the requests are. -/
theorem input_ends (matching : r.Matching c c' f f')
    (timeless : r.IsTimeless f.model field o) (listed : r.ListsMembers f field o)
    (listed' : r.ListsMembers f' field o) :
    SameEnd (r.input c f field o) (r.input c' f' field o) := by
  unfold Renderer.input
  rw [← matching.model]
  refine .bind_same fun type typed => ?_
  have control : Alike (fun a b => a.2.1 = b.2.1) (r.control c f field o (.ofDeclared type))
      (r.control c' f' field o (.ofDeclared type)) := by
    unfold Renderer.control
    split
    · rename_i chosen
      refine (association_ends matching timeless.constant chosen listed listed').bind ?_
      exact fun _ _ _ _ _ => .ok rfl
    · rename_i unchosen
      have temporal := temporal_of_isTimeless timeless typed unchosen
      refine (scalarControl_ends matching temporal).bind ?_
      exact fun _ _ _ _ _ => .ok rfl
  refine control.bind fun a b _ _ sameKind => ?_
  obtain ⟨shown, kind, calls⟩ := a
  obtain ⟨shown', kind', calls'⟩ := b
  have item : SameEnd (r.item f field o kind shown) (r.item f' field o kind' shown') :=
    r.drawing.theme.fill_ends _ ⟨.of_free rfl, .of_free rfl, .missing rfl rfl⟩
  exact item.thenReturn

/-- **The faults of an input** that is drawn with the built-in templates. -/
theorem input_fails (plain : r.Plain c) (timeless : r.IsTimeless f.model field o)
    (listed : r.ListsMembers f field o) : FailsStatically (r.input c f field o) := by
  refine input_failsWith (fun e => Fault.isStatic_of_isUnknown) plain
    (itemsOf_total timeless.constant c f.record) (fun picks => ?_)
    (fun _ _ desc choices shows => ?_) fun kind found desc _ => ?_
  · obtain ⟨ids, chosen⟩ := selectedIds_total (r := r) (listed picks)
    rw [chosen]
    rfl
  · exact Drawing.select_fails plain.standard shows choices
  · exact Drawing.bare_fails plain.standard plain.length (timeless.timeless kind found) c.today

/-! ## Nodes -/

mutual

/-- In a node for records of a model, builders and choices are constant, and there are no controls
of dates and times. A relation that is no has-many association is refused, whatever its rows are. -/
def IsStable (r : Renderer) (model : String) : Form.Node → Prop
  | .input field o => r.IsTimeless model field o
  | .fieldset _ body _ => AllStable r model body
  | .hasMany field rows _ => isMany (r.assoc? model field) = true →
    Unvarying rows ∧ FormStable r (r.relatedModel model field) (rows .none)
  | .actions body => AllStable r model body
  | .content _ _ => True
  | .script _ => True

def AllStable (r : Renderer) (model : String) : List Form.Node → Prop
  | [] => True
  | n :: rest => IsStable r model n ∧ AllStable r model rest

def FormStable (r : Renderer) (model : String) : RowForm → Prop
  | .nodes body => AllStable r model body
  | .fault _ => True

end

mutual

/-- A record of a model holds a list wherever the node has a has-many association or a choice of any
number of members, and so does every related record. -/
def HoldsLists (r : Renderer) (model : String) (record : Value) : Form.Node → Prop
  | .input field o =>
    r.picksMany model field o = true → (record.field field).membersOrNone.isOk = true
  | .fieldset _ body _ => AllHoldLists r model record body
  | .hasMany field rows _ =>
    isMany (r.assoc? model field) = true → (record.field field).membersOrNone.isOk = true ∧
      ∀ row ∈ record.related field, FormHoldsLists r (r.relatedModel model field) row (rows row)
  | .actions body => AllHoldLists r model record body
  | .content _ _ => True
  | .script _ => True

def AllHoldLists (r : Renderer) (model : String) (record : Value) : List Form.Node → Prop
  | [] => True
  | n :: rest => HoldsLists r model record n ∧ AllHoldLists r model record rest

def FormHoldsLists (r : Renderer) (model : String) (record : Value) : RowForm → Prop
  | .nodes body => AllHoldLists r model record body
  | .fault _ => True

end

section

variable {field : String}

theorem fieldset_ends (label : String) (o : FieldOptions) (body body' : Output) :
    SameEnd (r.fieldset c label o body) (r.fieldset c' label o body') :=
  (r.drawing.theme.fill_ends _ ⟨.of_free rfl, .of_free rfl, .missing rfl rfl⟩).thenReturn

theorem actions_ends (body body' : Output) : SameEnd (r.actions body) (r.actions body') :=
  (r.drawing.theme.fill_ends _ ⟨.of_free rfl, .of_free rfl, .missing rfl rfl⟩).thenReturn

/-- A row and the template of a row end alike. -/
theorem row_ends (row blank : Frame) (body body' : Output) :
    SameEnd (r.row row field body) (r.templateRow blank field body') :=
  (r.drawing.theme.fill_ends _ ⟨.of_free rfl, .of_free rfl, .missing rfl rfl⟩).thenReturn

theorem templateRow_ends (blank blank' : Frame) (body body' : Output) :
    SameEnd (r.templateRow blank field body) (r.templateRow blank' field body') :=
  (r.drawing.theme.fill_ends _ ⟨.of_free rfl, .of_free rfl, .missing rfl rfl⟩).thenReturn

theorem hasMany_ends (f f' : Frame) (drawn drawn' : List Output) (template template' : Output) :
    SameEnd (r.hasMany f field drawn template) (r.hasMany f' field drawn' template') :=
  (r.drawing.theme.fill_ends _ ⟨.of_free rfl, .of_free rfl, .missing rfl rfl⟩).thenReturn

theorem drawRows_total {draw : Nat → Value → Except Fault Output} {records : List Value}
    (each : ∀ i, ∀ record ∈ records, ∃ out, draw i record = .ok out) (index : Nat) :
    ∃ drawn, drawRows draw index records = .ok drawn := by
  induction records generalizing index with
  | nil => exact ⟨[], rfl⟩
  | cons record rest ih =>
    obtain ⟨first, drawn⟩ := each index record List.mem_cons_self
    obtain ⟨others, drawnRest⟩ :=
      ih (fun i other mem => each i other (List.mem_cons_of_mem _ mem)) (index + 1)
    exact ⟨first :: others, by rw [drawRows, drawn, ok_bind, drawnRest]; rfl⟩

/-- Rows that end like the template of a row make no difference to how the block ends. -/
theorem drawRows_ends {γ : Type} {draw : Nat → Value → Except Fault Output} {records : List Value}
    {index : Nat} {blank : Except Fault Output}
    (each : ∀ i, ∀ record ∈ records, SameEnd (draw i record) blank)
    {finish : List Output → Output → Except Fault γ}
    (finishes : ∀ drawn template, SameEnd (finish drawn template) (finish [] template)) :
    SameEnd (drawRows draw index records >>= fun drawn => blank >>= finish drawn)
      (blank >>= finish []) := by
  cases blank with
  | error e =>
    cases records with
    | nil => exact .error e
    | cons record rest =>
      -- the first row fails with the fault of the template
      have first : draw index record = .error e :=
        ((each index record List.mem_cons_self).error_iff e).mpr rfl
      rw [drawRows, first]
      exact .error e
  | ok template =>
    have total : ∀ i, ∀ record ∈ records, ∃ out, draw i record = .ok out := by
      intro i record mem
      obtain ⟨out, drawn, -⟩ := (each i record mem).symm.exists_of_ok rfl
      exact ⟨out, drawn⟩
    obtain ⟨drawn, drawnAll⟩ := drawRows_total total index
    rw [drawnAll]
    exact finishes drawn template

/-- The rows of a relation and the template of a row, each with its body, put into one block. -/
def block (r : Renderer) (field : String) (body : Frame → Except Fault Output) (f : Frame)
    (rel : Relation) : Except Fault Output :=
  drawRows (fun index record => body (rowFrame rel f field index record) >>=
      r.row (rowFrame rel f field index record) field) 0 rel.records >>= fun drawn =>
    body (templateFrame rel f field) >>= fun inner =>
    r.templateRow (templateFrame rel f field) field inner >>= r.hasMany f field drawn

/-- The rows end like the template. -/
def RowsEnd (field : String) (body : Frame → Except Fault Output) (f : Frame) (rel : Relation) :
    Prop :=
  ∀ (i : Nat), ∀ record ∈ rel.records,
    SameEnd (body (rowFrame rel f field i record)) (body (templateFrame rel f field))

/-- The block of a relation ends as if there were no rows but the template. -/
theorem block_blank (r : Renderer) {body : Frame → Except Fault Output} {f : Frame}
    {rel : Relation} (rows : RowsEnd field body f rel) :
    SameEnd (r.block field body f rel) (body (templateFrame rel f field) >>= fun inner =>
      r.templateRow (templateFrame rel f field) field inner >>= r.hasMany f field []) := by
  unfold block
  simp only [← bind_assoc]
  apply drawRows_ends
  · intro i record mem
    exact (rows i record mem).andThen fun _ _ => row_ends _ _ _ _
  · intro drawn template
    exact hasMany_ends f f _ _ _ _

/-- Two blocks of one relation end alike if the templates of their rows do. -/
theorem block_ends (r : Renderer) {body body' : Frame → Except Fault Output} {f f' : Frame}
    {rel rel' : Relation} (rows : RowsEnd field body f rel) (rows' : RowsEnd field body' f' rel')
    (templates : SameEnd (body (templateFrame rel f field)) (body' (templateFrame rel' f' field))) :
    SameEnd (r.block field body f rel) (r.block field body' f' rel') := by
  refine (r.block_blank rows).trans (SameEnd.trans ?_ (r.block_blank rows').symm)
  refine templates.andThen fun _ _ => ?_
  exact (templateRow_ends _ _ _ _).andThen fun _ _ => hasMany_ends f f' _ _ _ _

end

theorem relation_ends {field : String} (model : f.model = f'.model)
    (listed : isMany (r.assoc? f.model field) = true →
      (f.record.field field).membersOrNone.isOk = true)
    (listed' : isMany (r.assoc? f'.model field) = true →
      (f'.record.field field).membersOrNone.isOk = true) :
    Alike (r.SameRelation (fun _ _ => True) f f' field) (r.relation f field)
      (r.relation f' field) := by
  by_cases many : isMany (r.assoc? f.model field) = true
  · have many' : isMany (r.assoc? f'.model field) = true := by
      rw [← model]
      exact many
    have records : SameEnd (f.record.field field).membersOrNone
        (f'.record.field field).membersOrNone :=
      .of_total (exists_of_isOk (listed many)) (exists_of_isOk (listed' many'))
    exact relation_same model records
  · obtain ⟨e, -, refused⟩ := relation_refused r many
    rw [refused f rfl, refused f' model.symm]
    exact .error e

mutual

theorem holdsLists_none : ∀ (n : Form.Node) (model : String), r.HoldsLists model .none n
  | .input _ _, _ => fun _ => rfl
  | .fieldset _ body _, model => allHoldLists_none body model
  | .hasMany _ _ _, _ => fun _ => ⟨rfl, fun row mem => by cases mem⟩
  | .actions body, model => allHoldLists_none body model
  | .content _ _, _ => trivial
  | .script _, _ => trivial

theorem allHoldLists_none : ∀ (ns : List Form.Node) (model : String),
    r.AllHoldLists model .none ns
  | [], _ => trivial
  | n :: rest, model => ⟨holdsLists_none n model, allHoldLists_none rest model⟩

end

theorem formHoldsLists_none (form : RowForm) (model : String) :
    r.FormHoldsLists model .none form := by
  cases form with
  | nodes body => exact allHoldLists_none body model
  | fault fault => trivial

mutual

/-- **Two nodes of one declaration** end alike. -/
theorem node_ends : ∀ (n : Form.Node) {c c' : Context}
    {f f' : Frame}, r.Matching c c' f f' → r.IsStable f.model n →
    r.HoldsLists f.model f.record n → r.HoldsLists f'.model f'.record n →
    SameEnd (r.node (r.input c) c f n) (r.node (r.input c') c' f' n)
  | .input field o, _, _, _, _, matching, stable, lists, lists' => by
    simp only [Renderer.node]
    exact input_ends matching stable lists lists'
  | .fieldset label body o, _, _, _, _, matching, stable, lists, lists' => by
    simp only [Renderer.node]
    refine (nodes_ends body matching stable lists lists').andThen fun _ _ => ?_
    exact fieldset_ends label o _ _
  | .actions body, _, _, _, _, matching, stable, lists, lists' => by
    simp only [Renderer.node]
    refine (nodes_ends body matching stable lists lists').andThen fun _ _ => ?_
    exact actions_ends _ _
  | .content _ _, _, _, _, _, _, _, _, _ => by
    simp only [Renderer.node]
    exact .ok trivial
  | .script _, _, _, _, _, _, _, _, _ => by
    simp only [Renderer.node]
    exact .same _
  | .hasMany field rows o, c, c', f, f', matching, stable, lists, lists' => by
    simp only [Renderer.node]
    have relations := relation_ends matching.model (fun many => (lists many).1)
      fun many => (lists' many).1
    refine relations.bind fun rel rel' found found' same => ?_
    obtain ⟨unvarying, stable⟩ := stable (isMany_of_relation found)
    -- on both sides every row ends like the template
    have rows_end : ∀ {c : Context} (g : Frame) {rel : Relation}, r.drawing.showsErrorsOf c = true →
        rel.related = r.relatedModel f.model field →
        (∀ row ∈ rel.records, r.FormHoldsLists (r.relatedModel f.model field) row (rows row)) →
        RowsEnd field (fun row => r.rowForm (r.input c) c row (rows row.record)) g rel := by
      intro c g rel shows model lists i record mem
      have asBlank : rows record = rows .none := unvarying record
      have lists := lists record mem
      rw [asBlank] at lists
      dsimp only [rowFrame, templateFrame]
      rw [asBlank]
      refine rowForm_ends (rows .none) ⟨rfl, rfl, shows, shows⟩ ?_ ?_
        (formHoldsLists_none (rows .none) _)
      · rw [model]
        exact stable
      · rw [model]
        exact lists
    have templates : SameEnd (r.rowForm (r.input c) c (templateFrame rel f field) (rows .none))
        (r.rowForm (r.input c') c' (templateFrame rel' f' field) (rows .none)) := by
      refine rowForm_ends (rows .none) ⟨same.related, rfl, matching.shows, matching.shows'⟩ ?_
        (formHoldsLists_none (rows .none) _) (formHoldsLists_none (rows .none) _)
      rw [templateFrame, same.model]
      exact stable
    change SameEnd (r.block field (fun row => r.rowForm (r.input c) c row (rows row.record)) f rel)
      (r.block field (fun row => r.rowForm (r.input c') c' row (rows row.record)) f' rel')
    apply r.block_ends
    · apply rows_end f matching.shows same.model
      intro row mem
      rw [← related_of_relation found] at mem
      exact (lists (isMany_of_relation found)).2 row mem
    · apply rows_end f' matching.shows' (same.related.symm.trans same.model)
      intro row mem
      rw [← related_of_relation found'] at mem
      rw [matching.model]
      exact (lists' (isMany_of_relation found')).2 row mem
    · exact templates

theorem nodes_ends : ∀ (ns : List Form.Node)
    {c c' : Context} {f f' : Frame}, r.Matching c c' f f' → r.AllStable f.model ns →
    r.AllHoldLists f.model f.record ns → r.AllHoldLists f'.model f'.record ns →
    SameEnd (r.nodes (r.input c) c f ns) (r.nodes (r.input c') c' f' ns)
  | [], _, _, _, _, _, _, _, _ => by
    simp only [Renderer.nodes]
    exact .ok trivial
  | n :: rest, _, _, _, _, matching, stable, lists, lists' => by
    simp only [Renderer.nodes]
    refine (node_ends n matching stable.1 lists.1 lists'.1).andThen fun _ _ => ?_
    exact (nodes_ends rest matching stable.2 lists.2 lists'.2).thenReturn

theorem rowForm_ends : ∀ (form : RowForm)
    {c c' : Context} {f f' : Frame}, r.Matching c c' f f' → r.FormStable f.model form →
    r.FormHoldsLists f.model f.record form → r.FormHoldsLists f'.model f'.record form →
    SameEnd (r.rowForm (r.input c) c f form) (r.rowForm (r.input c') c' f' form)
  | .nodes body, _, _, _, _, matching, stable, lists, lists' => by
    simp only [Renderer.rowForm]
    exact (nodes_ends body matching stable lists lists').thenReturn
  | .fault _, _, _, _, _, matching, _, _, _ => by
    simp only [Renderer.rowForm, matching.model]
    exact .error _

end

/-! ## Faults of nodes -/

/-- The input has constant choices, no date or time, and a list where it reads one. -/
def IsSettled (r : Renderer) (f : Frame) (field : String) (o : FieldOptions) : Prop :=
  r.IsTimeless f.model field o ∧ r.ListsMembers f field o

theorem covering_isStatic : Covering fun e => e.isStatic = true where
  unknown _ := Fault.isStatic_of_isUnknown
  single _ _ := rfl
  compiled _ _ _ := rfl

mutual

/-- Every input of a stable tree is settled, those in the rows of relations too. -/
theorem everyInput_settled : ∀ (n : Form.Node) {f : Frame}, r.IsStable f.model n →
    r.HoldsLists f.model f.record n → r.EveryInput r.IsSettled f n
  | .input _ _, _, stable, lists => ⟨stable, lists⟩
  | .fieldset _ body _, _, stable, lists => everyInputOf_settled body stable lists
  | .actions body, _, stable, lists => everyInputOf_settled body stable lists
  | .content _ _, _, _, _ => trivial
  | .script _, _, _, _ => trivial
  | .hasMany field rows _, f, stable, lists => by
    rw [EveryInput]
    refine ⟨fun many => (lists many).1, fun rel found => ?_⟩
    have model := related_eq found
    have many := isMany_of_relation found
    obtain ⟨unvarying, stable⟩ := stable many
    have stableRow : ∀ record, r.FormStable rel.related (rows record) := by
      intro record
      rw [model, unvarying record]
      exact stable
    constructor
    · intro i record at_i
      refine everyInputIn_settled (rows record) (stableRow record) ?_
      have mem := List.mem_of_getElem? at_i
      rw [← related_of_relation found] at mem
      rw [rowFrame, model]
      exact (lists many).2 record mem
    · exact everyInputIn_settled (rows .none) (stableRow .none) (formHoldsLists_none (rows .none) _)

theorem everyInputOf_settled : ∀ (ns : List Form.Node) {f : Frame},
    r.AllStable f.model ns → r.AllHoldLists f.model f.record ns →
    r.EveryInputOf r.IsSettled f ns
  | [], _, _, _ => trivial
  | n :: rest, _, stable, lists =>
    ⟨everyInput_settled n stable.1 lists.1, everyInputOf_settled rest stable.2 lists.2⟩

theorem everyInputIn_settled : ∀ (form : RowForm) {f : Frame},
    r.FormStable f.model form → r.FormHoldsLists f.model f.record form →
    r.EveryInputIn r.IsSettled f form
  | .nodes body, _, stable, lists => everyInputOf_settled body stable lists
  | .fault _, _, _, _ => trivial

end

end Render.Renderer

/-! ## Files of a project -/

/-- What starts an expression, a tag or a comment in a template. -/
def templateMarks : List String := ["\x7b\x7b", "\x7b%", "\x7b#"]

/-- Text alone stands between the include tags of a file: nothing in it starts anything else, also
not with the brace of the tag that comes after it, and the names in the tags are as they are written.
-/
def Segment.areLiteral : List Segment → Bool
  | [] => true
  | .text s :: rest =>
    let upToTag := s.toList ++ if rest.isEmpty then [] else ['\x7b']
    (templateMarks.all fun mark => !Text.occursIn mark.toList upToTag) && Segment.areLiteral rest
  | .embed name :: rest => !name.toList.contains '\\' && Segment.areLiteral rest

/-- The files of the project are literal text with include tags. -/
def Theme.isLiteral (theme : Theme) : Bool :=
  (theme.project.getD []).all fun file => Segment.areLiteral (segments file.2)

/-! ## Forms -/

namespace Render.Renderer

variable {r : Renderer}

/-- Nothing in the form, the schema and the templates depends on what the form is rendered for. -/
structure IsSteady (r : Renderer) (tree : Tree) (model : String) : Prop where
  stable : r.AllStable model tree.nodes
  literal : r.drawing.theme.isLiteral = true
  numbers : tree.IsShowable r

/-- A request for the form has lists where they are asked for, errors that can be shown, and numbers
that can be written. -/
structure IsReady (r : Renderer) (tree : Tree) (c : Context) : Prop where
  lists : r.AllHoldLists c.modelName c.record tree.nodes
  shows : r.drawing.showsErrorsOf c = true
  numbers : c.isShowable = true

/-- **Decided by form and schema.** Whether a form can be drawn is the same for any two records and
requests, and so is the fault if it cannot. With the built-in templates the fault is one of the form
and the schema. -/
theorem form_decided (r : Renderer) (tree : Tree) (c c' : Context)
    (steady : r.IsSteady tree c.modelName) (model : c.modelName = c'.modelName)
    (ready : r.IsReady tree c) (ready' : r.IsReady tree c') :
    (r.form tree c).isOk = (r.form tree c').isOk ∧
    (∀ e, r.form tree c = .error e ↔ r.form tree c' = .error e) ∧
    (r.drawing.theme = .standard → (writtenNumeral r.drawing.config.textMaxlength).isOk = true →
      ∀ e, r.form tree c = .error e → e.isStatic = true) := by
  have matching : r.Matching c c' (.ofContext c) (.ofContext c') :=
    ⟨model, rfl, ready.shows, ready'.shows⟩
  have ends : SameEnd (r.form tree c) (r.form tree c') := by
    refine (nodes_ends tree.nodes matching steady.stable ready.lists ready'.lists).andThen
      fun _ _ => ?_
    exact (r.drawing.theme.fill_ends _ ⟨.of_free rfl, .of_free rfl, .missing rfl rfl⟩).thenReturn
  refine ⟨ends.isOk_eq, ends.error_iff, fun standard length => ?_⟩
  have plain : r.Plain c := ⟨standard, length, ready.shows⟩
  have parts : r.PartsFail (r.input c) (Form.Node.IsShowable r) r.IsSettled
      fun e => e.isStatic = true :=
    { standard, covering := covering_isStatic, located := fun showable => showable.1,
      inputs := fun _ settled => input_fails plain settled.1 settled.2 }
  exact form_failsWith c parts steady.numbers
    (everyInputOf_settled tree.nodes steady.stable ready.lists)

/-- The fax numbers of the phones of a contact, which are not known. -/
def faxForm : Tree := ⟨"contact", [
  .hasMany "phones" (fun _ => .nodes [.input "fax" .standard]) .standard]⟩

/-- A contact without phones. -/
def noPhones : Context := { twoPhones with record := .none, mode := .new }

/-- A contact without phones that has an error of its name. -/
def invalidName : Context := { noPhones with errors := some [("name", .text "invalid")] }

/-- The template of a row is enough to find the unknown field. -/
theorem form_decided_faxForm :
    addressBook.form faxForm invalidName = .error (.unknownField "fax" "phone") ∧
    addressBook.form faxForm twoPhones = .error (.unknownField "fax" "phone") ∧
    (Fault.unknownField "fax" "phone").isStatic = true := by
  have failed : addressBook.form faxForm invalidName = .error (.unknownField "fax" "phone") := by
    rfl
  have steady : addressBook.IsSteady faxForm "contact" := by
    refine ⟨⟨fun _ => ⟨fun _ => rfl, ⟨hasConstantItems_none rfl, ?_⟩, trivial⟩, trivial⟩, rfl,
      ⟨⟨⟨fun _ => rfl, rfl⟩, fun _ => ⟨⟨nofun, rfl⟩, trivial⟩⟩, trivial⟩⟩
    intro kind unknown
    cases unknown
  have ready : addressBook.IsReady faxForm invalidName :=
    ⟨allHoldLists_none faxForm.nodes "contact", by decide +kernel, rfl⟩
  have ready' : addressBook.IsReady faxForm twoPhones := by
    refine ⟨⟨fun _ => ⟨rfl, fun row _ => ⟨fun picks => ?_, trivial⟩⟩, trivial⟩, rfl,
      by decide +kernel⟩
    cases picks
  obtain ⟨-, sameFault, static⟩ :=
    form_decided addressBook faxForm invalidName twoPhones steady rfl ready ready'
  exact ⟨failed, (sameFault _).mp failed, static rfl (by decide +kernel) _ failed⟩

/-! ## Errors that decide -/

/-- The form is stable and the records hold lists, but it is drawn for one of the contexts only. -/
structure DecidedByErrors (r : Renderer) (tree : Tree) (c c' : Context) (e : Fault) : Prop where
  stable : r.AllStable c.modelName tree.nodes
  model : c.modelName = c'.modelName
  lists : r.AllHoldLists c.modelName c.record tree.nodes
  lists' : r.AllHoldLists c'.modelName c'.record tree.nodes
  drawn : ∃ out, r.form tree c = .ok out
  failed : r.form tree c' = .error e

/-- An address book of a project whose template of errors includes a template that is not there. -/
def unsayingBook : Renderer where
  schema := addressBook.schema
  drawing := ⟨⟨some [("controls/errors.html", "\x7b% include \"missing.html\" %\x7d")]⟩, .standard⟩

/-- The name of a contact. -/
def nameForm : Tree := ⟨"contact", [.input "name" .standard]⟩

theorem nameForm_stable {r : Renderer} (schema : r.schema = addressBook.schema) :
    r.AllStable "contact" nameForm.nodes := by
  refine ⟨⟨hasConstantItems_none rfl, fun kind found => ?_⟩, trivial⟩
  have text : r.kind? "contact" "name" .standard = some .text := by
    rw [kind?, schema]
    rfl
  cases text.symm.trans found
  rfl

/-- A contact whose name is shorter than a number that cannot be written. -/
def shortName : Context :=
  { noPhones with errors := some [("name",
      .tuple [.text "too_short", .int (1 - Int.ofNat (Nat.pow 10 4300))])] }

/-- The template that a computation did not find. -/
def missing? {α : Type} : Except Fault α → Option String
  | .error (.noTemplate name) => some name
  | _ => none

theorem missing?_eq_some {α : Type} {x : Except Fault α} {name : String} :
    missing? x = some name ↔ x = .error (.noTemplate name) := by
  constructor
  · intro found
    unfold missing? at found
    split at found
    · cases found
      rfl
    · cases found
  · rintro rfl
    rfl

/-- **Errors that decide.** A form may fail for an error that cannot be put in words, or because the
template of errors cannot be filled. -/
theorem errors_decide :
    DecidedByErrors addressBook nameForm noPhones shortName (.misuse .length) ∧
    DecidedByErrors unsayingBook nameForm noPhones invalidName (.noTemplate "missing.html") := by
  constructor
  · constructor
    · exact nameForm_stable rfl
    · rfl
    · exact allHoldLists_none nameForm.nodes "contact"
    · exact allHoldLists_none nameForm.nodes "contact"
    · exact exists_of_isOk (by decide +kernel)
    · exact misuse?_eq_some.mp (by decide +kernel)
  · constructor
    · exact nameForm_stable rfl
    · rfl
    · exact allHoldLists_none nameForm.nodes "contact"
    · exact allHoldLists_none nameForm.nodes "contact"
    · exact exists_of_isOk (by decide +kernel)
    · exact missing?_eq_some.mp (by decide +kernel)

end Render.Renderer

end Formwright
