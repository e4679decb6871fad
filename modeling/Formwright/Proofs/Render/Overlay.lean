import Formwright.Proofs.Render.Merge
import Formwright.Proofs.Render.Rows
import Formwright.Proofs.Render.WellFormed

/-!
# Submitted values over a record

A form shows the submitted values over those of the record. It shows the same when the submitted
values are merged into the record and nothing is submitted: both renderings are walked side by side,
and in every frame the second record is the first one with what was submitted for it.

- `Mergeable`: forms in which nothing is read past the submitted values.
- `Fits`: submitted values that fit a record.
- `Overlaid`: the invariant of the frames.
- `form_merged`: both renderings are the same.
- `merging_changes`: they are not if related records are read as values.
-/

namespace Formwright

namespace Render

open Form Outcome Renderer

/-! ## What may be merged -/

/-- Every node is shown, neither choices nor rows are computed, and no input is a
many-association. -/
structure Settled (r : Renderer) (ns : List Form.Node) (model : String) : Prop where
  input : ∀ {path : List String} {m field : String} {o : FieldOptions},
    Placed r ns model path m (.input field o) →
      o.display = true ∧ r.IsConstant o.collection ∧
      (o.collection.isSome = true → isMany (r.assoc? m field) = false)
  group : ∀ {path : List String} {m label : String} {body : List Form.Node} {o : FieldOptions},
    Placed r ns model path m (.fieldset label body o) → o.display = true
  rows : ∀ {path : List String} {m relation : String} {rows : Value → RowForm}
    {o : FieldOptions}, Placed r ns model path m (.hasMany relation rows o) → Unvarying rows

/-- Neither what an input reads from a record nor the identity of a row is the related records of a
relation beside it. -/
structure Mergeable (r : Renderer) (ns : List Form.Node) (model : String) : Prop
    extends Settled r ns model where
  apart : ∀ {path : List String} {m m' field relation : String} {o o' : FieldOptions}
    {rows : Value → RowForm}, Placed r ns model path m (.input field o) →
      Placed r ns model path m' (.hasMany relation rows o') → r.inputKey m field o ≠ relation
  identity : ∀ {path : List String} {m relation : String} {rows : Value → RowForm}
    {o : FieldOptions}, Placed r ns model path m (.hasMany relation rows o) → path ≠ [] →
      r.schema.identityField ≠ relation

/-- Submitted values fit a record: it is a table, no values are submitted for a relation itself, the
related records stand in a sequence, and what is submitted for each of them fits it and leaves its
identity alone. -/
inductive Fits (identity : String) : List Form.Node → List (Value × Value) → Value → Prop where
  | intro {ns : List Form.Node} {values : List (Value × Value)} {record : Value}
    (takes : TakesValues values record)
    (unsubmitted : ∀ {relation : String}, isRelation ns relation = true →
      Value.named? values relation = none)
    (sequence : ∀ {relation : String}, isRelation ns relation = true →
      HasSequence (record.field relation))
    (kept : ∀ {relation : String} {records : List Value} {i : Nat} {row : Value},
      isRelation ns relation = true → (record.field relation).membersOrNone = .ok records →
      records[i]? = some row → Value.named? (rowValues
        (.ofOption (Value.named? values (FieldScope.rowsKey relation))) i) identity = none)
    (rows : ∀ {relation : String} {records : List Value} {i : Nat} {row : Value},
      isRelation ns relation = true → (record.field relation).membersOrNone = .ok records →
      records[i]? = some row → Fits identity (rowNodes ns relation) (rowValues
        (.ofOption (Value.named? values (FieldScope.rowsKey relation))) i) row) :
    Fits identity ns values record

namespace Fits

variable {identity : String} {ns : List Form.Node} {values : List (Value × Value)} {record : Value}

theorem takes (h : Fits identity ns values record) : TakesValues values record := by
  cases h
  assumption

/-- Nothing fits no record. -/
theorem none (identity : String) (ns : List Form.Node) : Fits identity ns [] .none := by
  have noMembers : ∀ relation, (Value.none.field relation).membersOrNone = .ok [] := fun _ => rfl
  refine .intro (.inr ⟨rfl, rfl⟩) (fun _ => rfl) ?_ ?_ ?_
  · intro relation _ record rest members
    rw [noMembers] at members
    cases members
  · intro relation records i row _ members at_i
    rw [noMembers] at members
    cases members
    cases at_i
  · intro relation records i row _ members at_i
    rw [noMembers] at members
    cases members
    cases at_i

/-- Values fit a table that has no relations. -/
theorem of_leaf {entries : List (Value × Value)}
    (leaf : ∀ relation, isRelation ns relation = false) :
    Fits identity ns values (.table entries) := by
  have never : ∀ {relation}, isRelation ns relation ≠ true := by
    intro relation
    rw [leaf]
    exact Bool.false_ne_true
  exact .intro (.inl ⟨_, rfl⟩) (fun h => absurd h never) (fun h => absurd h never)
    (fun h => absurd h never) (fun h => absurd h never)

/-- Values fit a table of one relation if they fit its rows. -/
theorem of_single {entries : List (Value × Value)} {relation : String} {given : List Form.Node}
    {records : List Value} (single : Node.allBlocks ns = [(relation, given)])
    (related : Value.field (.table entries) relation = .list records)
    (unsubmitted : Value.named? values relation = Option.none)
    (rows : ∀ (i : Nat) (row : Value), records[i]? = some row →
      Value.named? (rowValues (.ofOption (Value.named? values (FieldScope.rowsKey relation))) i)
        identity = Option.none ∧
      Fits identity (rowNodes ns relation)
        (rowValues (.ofOption (Value.named? values (FieldScope.rowsKey relation))) i) row) :
    Fits identity ns values (.table entries) := by
  have only : ∀ name, isRelation ns name = true → name = relation := by
    intro name isRel
    obtain ⟨given', block⟩ := isRelation_iff.mp isRel
    rw [single, List.mem_singleton, Prod.mk.injEq] at block
    exact block.1
  -- there is no other relation, and no other records
  have all : ∀ {name : String} {members : List Value}, isRelation ns name = true →
      (Value.field (.table entries) name).membersOrNone = .ok members →
      name = relation ∧ members = records := by
    intro name members isRel found
    obtain rfl := only name isRel
    rw [related, membersOrNone_of_sequence (.inl rfl)] at found
    exact ⟨rfl, (Except.ok.inj found).symm⟩
  refine .intro (.inl ⟨_, rfl⟩) ?_ ?_ ?_ ?_
  · intro name isRel
    obtain rfl := only name isRel
    exact unsubmitted
  · intro name isRel record rest _
    obtain rfl := only name isRel
    exact ⟨records, .inl related⟩
  · intro name members i row isRel found at_i
    obtain ⟨rfl, rfl⟩ := all isRel found
    exact (rows i row at_i).1
  · intro name members i row isRel found at_i
    obtain ⟨rfl, rfl⟩ := all isRel found
    exact (rows i row at_i).2

end Fits

/-! ## Frames side by side -/

/-- The frames of one row: in the second one the submitted values are merged into the record. -/
structure Overlaid (r : Renderer) (ns : List Form.Node) (path : List String) (f f' : Frame) : Prop
    extends SamePlace f f' where
  record : f'.record = merged (nodesAt ns path) (f.values.getD []) f.record
  unsubmitted : ∀ key, f'.submitted? key = none
  fits : Fits r.schema.identityField (nodesAt ns path) (f.values.getD []) f.record

theorem submitted?_eq (f : Frame) (key : String) :
    f.submitted? key = Value.named? (f.values.getD []) key := by
  rw [Frame.submitted?]
  cases f.values <;> rfl

section

variable {r : Renderer} {ns : List Form.Node} {c c' : Context} {model m : String}
  {path : List String} {f f' : Frame} {field relation : String} {rows : Value → RowForm}
  {o : FieldOptions} {rel rel' : Renderer.Relation}

/-- A key that is no relation has the same value in both frames. -/
theorem Overlaid.value (h : Overlaid r ns path f f') {key : String}
    (other : isRelation (nodesAt ns path) key = false) : f.value key = f'.value key := by
  rw [Frame.value, Frame.value, h.unsubmitted, h.record, Option.getD_none,
    field_merged h.fits.takes other, submitted?_eq]

/-- The key of an input is no relation. -/
theorem Mergeable.inputKey_other (mergeable : Mergeable r ns model)
    (placed : Placed r ns model path m (.input field o)) :
    isRelation (nodesAt ns path) (r.inputKey m field o) = false := by
  rw [← Bool.not_eq_true]
  intro isRel
  obtain ⟨m', rows, o', beside⟩ := Placed.of_isRelation r model isRel
  exact mergeable.apart placed beside rfl

/-- The identity of a row is no relation. -/
theorem Mergeable.identity_other (mergeable : Mergeable r ns model) (inRow : path ≠ []) :
    isRelation (nodesAt ns path) r.schema.identityField = false := by
  rw [← Bool.not_eq_true]
  intro isRel
  obtain ⟨m', rows, o', beside⟩ := Placed.of_isRelation r model isRel
  exact mergeable.identity beside inRow rfl

/-- **One input in both renderings.** -/
theorem Overlaid.input_alike (mergeable : Mergeable r ns c.modelName)
    (request : SameRequest c c')
    (placed : Placed r ns c.modelName path f.model (.input field o))
    (overlaid : Overlaid r ns path f f') :
    Alike Output.Same (r.input c f field o) (r.input c' f' field o) := by
  obtain ⟨displayed, constant, single⟩ := mergeable.input placed
  refine input_same request overlaid.toSamePlace displayed constant
    (overlaid.value (mergeable.inputKey_other placed)) fun chosen many => ?_
  rw [single chosen] at many
  cases many

/-! ## Rows in both renderings -/

/-- The frames of rows, which have the same identity. -/
def RowOverlaid (r : Renderer) (ns : List Form.Node) (path : List String) (f f' : Frame) : Prop :=
  Overlaid r ns path f f' ∧ r.schema.identity f'.record = r.schema.identity f.record

theorem rows_overlaid (mergeable : Mergeable r ns model)
    (placed : Placed r ns model path m (.hasMany field rows o)) (overlaid : Overlaid r ns path f f')
    {R : List Value → List Value → Prop} (same : r.SameRelation R f f' field rel rel')
    (members : (f.record.field field).membersOrNone = .ok rel.records) {i : Nat} {record : Value}
    (at_i : rel.records[i]? = some record) :
    RowOverlaid r ns (path ++ [field]) (rowFrame rel f field i record)
      (rowFrame rel' f' field i
        (merged (rowNodes (nodesAt ns path) field) (rowValues rel.submitted i) record)) := by
  have isRel := placed.isRelation mergeable.rows
  have submitted : rel.submitted =
      .ofOption (Value.named? (f.values.getD []) (FieldScope.rowsKey field)) := by
    rw [same.submitted, submitted?_eq]
  obtain ⟨-, -, -, kept, fits⟩ := overlaid.fits
  have kept := kept isRel members at_i
  have fits := fits isRel members at_i
  rw [← submitted] at kept fits
  -- a row has a relation before it, so that its identity is no relation
  have other : isRelation (rowNodes (nodesAt ns path) field) r.schema.identityField = false := by
    rw [← nodesAt_append]
    exact mergeable.identity_other (List.append_ne_nil_of_right_ne_nil _ (List.cons_ne_nil _ _))
  refine ⟨⟨⟨same.related, ?_, rfl⟩, ?_, fun key => ?_, ?_⟩, ?_⟩
  · rw [rowFrame, rowFrame, overlaid.scope]
  · rw [nodesAt_append]
    rfl
  · -- nothing was submitted for the relation of the second frame either
    have none := same.submitted'
    rw [overlaid.unsubmitted] at none
    rw [Frame.submitted?, rowFrame, none]
    rfl
  · rw [nodesAt_append]
    exact fits
  · change (merged _ _ record).field _ = record.field _
    rw [field_merged fits.takes other, kept]
    rfl

theorem template_overlaid (field : String) (overlaid : Overlaid r ns path f f')
    (related : rel.related = rel'.related) :
    RowOverlaid r ns (path ++ [field]) (templateFrame rel f field)
      (templateFrame rel' f' field) := by
  refine ⟨⟨⟨related, ?_, rfl⟩, rfl, fun _ => rfl, Fits.none _ _⟩, rfl⟩
  rw [templateFrame, templateFrame, overlaid.scope]

/-- **One relation in both renderings.** Each record of the second one is that of the first one with
what was submitted for it. -/
theorem Overlaid.relation_alike (mergeable : Mergeable r ns c.modelName)
    (placed : Placed r ns c.modelName path f.model (.hasMany field rows o))
    (overlaid : Overlaid r ns path f f') :
    Alike (RowsMet (fun f f' => ∃ path, RowOverlaid r ns path f f')
        (fun n f f' => ∃ path, Placed r ns c.modelName path f.model n ∧ Overlaid r ns path f f')
        f f' field rows)
      (r.relation f field) (r.relation f' field) := by
  have isRel := placed.isRelation mergeable.rows
  obtain ⟨takes, unsubmitted, sequence, -, -⟩ := overlaid.fits
  have records : f'.record.field field = mergedRows (rowNodes (nodesAt ns path) field)
      (.ofOption (f.submitted? (FieldScope.rowsKey field))) (f.record.field field) := by
    rw [overlaid.record, relation_merged takes isRel (unsubmitted isRel), submitted?_eq]
  have members := members_merged (rowNodes (nodesAt ns path) field)
    (.ofOption (f.submitted? (FieldScope.rowsKey field))) (sequence isRel)
  rw [← records] at members
  refine (relation_same overlaid.model members).ended.mono fun rel rel' ended => ?_
  obtain ⟨same, found, -⟩ := ended
  -- what is known of rows is known by the index of a related record
  have members := (relation_inv found).2.1
  have unvarying := mergeable.rows placed
  have records' := same.records
  rw [← same.submitted] at records'
  refine ⟨?_, fun i record record' at_i at_i' => ?_, ?_⟩
  · rw [records', length_mergedItems]
  · rw [records', getElem?_mergedItems, at_i, Nat.zero_add] at at_i'
    obtain rfl := Option.some.inj at_i'
    have row := rows_overlaid mergeable placed overlaid same members at_i
    exact ⟨⟨_, row⟩, placed.builtMet unvarying same.model same.related row.1⟩
  · have row := template_overlaid field overlaid same.related
    exact ⟨⟨_, row⟩, placed.builtMet unvarying same.model same.related row.1⟩

end

/-! ## Forms in both renderings -/

namespace Output.Same

theorem lines {parts parts' : List Output} (h : List.Forall₂ Output.Same parts parts') :
    Output.Same (.lines parts) (.lines parts') := by
  have both : parts.map (·.html) = parts'.map (·.html) ∧
      Output.allListeners parts = Output.allListeners parts' := by
    induction h with
    | nil => exact ⟨rfl, rfl⟩
    | cons first _ ih =>
      obtain ⟨html, listeners⟩ := ih
      rw [List.map_cons, List.map_cons, html, first.html, Output.allListeners, Output.allListeners,
        List.flatMap_cons, List.flatMap_cons, first.listeners]
      exact ⟨rfl, congrArg _ listeners⟩
  exact ⟨congrArg Html.joinLines both.1, both.2⟩

/-- What is put around both is the same. -/
theorem around {out out' : Output} (h : Output.Same out out') (x : Except Fault (List Html)) :
    Alike Output.Same (do return out.around (← x)) (do return out'.around (← x)) :=
  .bind_same fun _ _ => .ok ⟨rfl, h.listeners⟩

end Output.Same

section

variable {r : Renderer} {ns : List Form.Node} {c c' : Context}

/-- **Both renderings.** They are the same, node by node. -/
theorem overlay_simulation (mergeable : Mergeable r ns c.modelName) (request : SameRequest c c') :
    Simulation r (r.input c) (r.input c') c c'
      (fun f f' => ∃ path, RowOverlaid r ns path f f')
      (fun n f f' => ∃ path, Placed r ns c.modelName path f.model n ∧ Overlaid r ns path f f')
      (fun _ => Output.Same) (fun _ => Output.Same) where
  input := by
    rintro f f' field o ⟨path, placed, overlaid⟩
    exact overlaid.input_alike mergeable request placed
  content _ := ⟨rfl, rfl⟩
  script := by
    intro f f' script _
    exact Alike.refl fun _ _ => ⟨rfl, rfl⟩
  lines := .lines
  group := by
    rintro f f' label body o ⟨path, placed, overlaid⟩ n mem
    exact ⟨path, placed.grouped mem, overlaid⟩
  fieldset := by
    rintro f f' label body o out out' ⟨path, placed, -⟩ same
    have displayed := mergeable.group placed
    simp only [Renderer.fieldset, displayed, Bool.true_or, same.html]
    exact same.around _
  grouped := by
    rintro f f' body ⟨path, placed, overlaid⟩ n mem
    exact ⟨path, placed.action mem, overlaid⟩
  actions := by
    rintro f f' body out out' - same
    simp only [Renderer.actions, same.html]
    exact same.around _
  relation := by
    rintro f f' field rows o ⟨path, placed, overlaid⟩
    exact overlaid.relation_alike mergeable placed
  row := by
    rintro f f' field out out' ⟨path, overlaid, identity⟩ same
    -- listeners are dropped for a row without a record, which merging does not bring about
    have isNone : f'.record.isNone = f.record.isNone := by rw [overlaid.record, isNone_merged]
    simp only [Renderer.row, overlaid.scope, identity, isNone, same.html]
    refine .bind_same fun html _ => .ok ?_
    split
    · exact ⟨rfl, rfl⟩
    · exact ⟨rfl, same.listeners⟩
  templateRow := by
    rintro f f' field out out' ⟨path, overlaid, -⟩ same
    simp only [Renderer.templateRow, overlaid.scope, same.html]
    exact .bind_same fun _ _ => .ok ⟨rfl, rfl⟩
  block := by
    rintro f f' field rows o rel rel' drawn drawn' template template' ⟨path, -, overlaid⟩ - -
      related sameTemplate
    have each : List.Forall₂ Output.Same drawn drawn' := by
      refine related.imp fun out out' row => ?_
      obtain ⟨_, _, _, same⟩ := row
      exact same
    have rows := Output.Same.lines each
    simp only [Renderer.hasMany, overlaid.scope, rows.html, sameTemplate.html, rows.listeners,
      sameTemplate.listeners]
    exact .bind_same fun _ _ => .ok ⟨rfl, rfl⟩

end

/-! ## Merging what was submitted -/

/-- A context in which the values submitted for the model are merged into the record instead. -/
def merging (tree : Tree) (c : Context) : Context :=
  { c with
    record := merged tree.nodes c.modelParams c.record
    params := c.params.filter fun e => e.1 != c.modelName }

theorem merging_unsubmitted (tree : Tree) (c : Context) : (merging tree c).modelParams = [] := by
  have absent : (c.params.filter fun e => e.1 != c.modelName).lookup c.modelName = none := by
    rw [List.lookup_eq_none_iff]
    intro e mem
    simpa [bne, BEq.comm] using (List.mem_filter.mp mem).2
  simp only [Context.modelParams, merging, absent]

/-- **Merging.** A form shows the same markup and runs the same script, whether values are submitted
for a record or merged into it. -/
theorem form_merged (r : Renderer) (tree : Tree) (c : Context)
    (mergeable : Mergeable r tree.nodes c.modelName)
    (fits : Fits r.schema.identityField tree.nodes c.modelParams c.record) :
    (r.form tree c).map (fun out => (out.html, out.script)) =
      (r.form tree (merging tree c)).map (fun out => (out.html, out.script)) := by
  -- nothing but the record and the submitted values differs
  have request : SameRequest c (merging tree c) := ⟨rfl, rfl, rfl, rfl⟩
  have overlaid : Overlaid r tree.nodes [] (.ofContext c) (.ofContext (merging tree c)) := by
    refine ⟨⟨rfl, rfl, rfl⟩, rfl, fun key => ?_, fits⟩
    rw [Frame.submitted?, Frame.ofContext, merging_unsubmitted]
    rfl
  refine Alike.map_eq ?_
  unfold Renderer.form Renderer.formBy
  refine ((overlay_simulation mergeable request).nodes_alike tree.nodes
    fun n mem => ⟨[], .top mem, overlaid⟩).bind fun parts parts' _ _ related => ?_
  have same := Output.Same.lines related
  simp only [same.html, same.listeners, merging]
  exact .bind_same fun _ _ => .ok rfl

/-- Two phones, for the second of which another number was submitted. -/
def secondNumber : Context := { twoPhones with
  params := [("contact", .table [(.text "name", .text "Ada"), (.text "phones_attributes",
    .table [(.text "1", .table [(.text "number", .text "555")])])])] }

theorem contactForm_mergeable : Mergeable addressBook contactForm.nodes "contact" where
  input := by
    intro path m field o placed
    rcases contactForm_placed placed with ⟨-, -, eq | eq⟩ | ⟨-, -, eq⟩
    · cases eq
      exact ⟨rfl, ⟨_, fun _ _ => rfl⟩, nofun⟩
    · cases eq
    · cases eq
      exact ⟨rfl, ⟨_, fun _ _ => rfl⟩, nofun⟩
  group := by
    intro path m label body o placed
    rcases contactForm_placed placed with ⟨-, -, eq | eq⟩ | ⟨-, -, eq⟩ <;> cases eq
  rows := by
    intro path m relation rows o placed
    rcases contactForm_placed placed with ⟨-, -, eq | eq⟩ | ⟨-, -, eq⟩
    · cases eq
    · cases eq
      exact fun _ => rfl
    · cases eq
  apart := by
    intro path m m' field relation o o' rows placed placed'
    rcases contactForm_placed placed' with ⟨rfl, -, eq' | eq'⟩ | ⟨-, -, eq'⟩
    · cases eq'
    · cases eq'
      rcases contactForm_placed placed with ⟨-, rfl, eq | eq⟩ | ⟨isRow, -, -⟩
      · cases eq
        decide
      · cases eq
      · cases isRow
    · cases eq'
  identity := by
    intro path m relation rows o placed inRow
    rcases contactForm_placed placed with ⟨rfl, -, -⟩ | ⟨-, -, eq⟩
    · exact absurd rfl inRow
    · cases eq

theorem contactForm_fits :
    Fits "id" contactForm.nodes secondNumber.modelParams secondNumber.record := by
  refine .of_single rfl rfl rfl fun i row at_i => ?_
  have leaf : ∀ relation, isRelation (rowNodes contactForm.nodes "phones") relation = false :=
    fun _ => rfl
  match i, at_i with
  | 0, at_i =>
    cases at_i
    exact ⟨by decide +kernel, .of_leaf leaf⟩
  | 1, at_i =>
    cases at_i
    exact ⟨by decide +kernel, .of_leaf leaf⟩

theorem form_merged_secondNumber :
    ∃ out out', addressBook.form contactForm secondNumber = .ok out ∧
      addressBook.form contactForm (merging contactForm secondNumber) = .ok out' ∧
      out.html = out'.html ∧ out.script = out'.script := by
  obtain ⟨out, drawn⟩ : ∃ out, addressBook.form contactForm secondNumber = .ok out :=
    exists_of_isOk (by decide +kernel)
  have same := form_merged addressBook contactForm secondNumber contactForm_mergeable
    contactForm_fits
  rw [drawn] at same
  obtain ⟨out', drawn', eq⟩ := exceptMap_eq_ok.mp same.symm
  rw [Prod.mk.injEq] at eq
  exact ⟨out, out', drawn, drawn', eq.1.symm, eq.2.symm⟩

/-! ## Related records as values -/

/-- The values that the tags of a form have under a name. -/
def Renderer.Rendered.attributes (out : Rendered) (name : String) : List String :=
  (Html.tagsAll out.html).filterMap fun t => t.attrs.lookup name

/-- Forms with other attributes are written otherwise. -/
theorem markup_ne {r : Renderer} (standard : r.drawing.theme = .standard) {tree : Tree}
    (treePlain : Node.AllEverywhere (fun n => n.isPlain) tree.nodes) {c c' : Context}
    (plain : c.IsPlain) (plain' : c'.IsPlain) (name : String)
    (others : (r.form tree c).toOption.map (·.attributes name) ≠
      (r.form tree c').toOption.map (·.attributes name)) :
    (r.form tree c).map (·.markup) ≠ (r.form tree c').map (·.markup) := by
  intro same
  refine others ?_
  cases drawn : r.form tree c with
  | error e =>
    rw [drawn] at same
    cases drawn' : r.form tree c' with
    | error e' => rfl
    | ok out' =>
      rw [drawn'] at same
      cases same
  | ok out =>
    rw [drawn] at same
    obtain ⟨out', drawn', markup⟩ := exceptMap_eq_ok.mp same.symm
    -- what is written is read back as its tags, so that other tags are written otherwise
    have tags := Reader.read_writeAll (form_clean standard treePlain plain drawn)
    have tags' := Reader.read_writeAll (form_clean standard treePlain plain' drawn')
    have eq : Html.tagsAll out.html = Html.tagsAll out'.html := by
      refine Option.some.inj (tags.symm.trans (.trans ?_ tags'))
      exact congrArg Reader.read markup.symm
    rw [drawn']
    simp only [Except.toOption, Option.map_some, Rendered.attributes, eq]

/-- A form in which no input is named like a relation, and yet merging what was submitted changes
the markup. -/
structure ChangedByMerging (r : Renderer) (tree : Tree) (c : Context) : Prop where
  settled : Settled r tree.nodes c.modelName
  named : ∀ {path path' : List String} {m m' field relation : String} {o o' : FieldOptions}
    {rows : Value → RowForm}, Placed r tree.nodes c.modelName path m (.input field o) →
      Placed r tree.nodes c.modelName path' m' (.hasMany relation rows o') → field ≠ relation
  fits : Fits r.schema.identityField tree.nodes c.modelParams c.record
  markup : (r.form tree c).map (·.markup) ≠ (r.form tree (merging tree c)).map (·.markup)

/-- Contacts whose main phone is stored under the phones. -/
def mainPhones : Renderer where
  schema := ⟨[
    ⟨"contact", [], [
      ⟨"phones", .many, "id", "phone", none⟩,
      ⟨"main", .one, "phones", "phone", none⟩], "id"⟩,
    ⟨"phone", [⟨"number", "string"⟩], [], "id"⟩], "id"⟩
  drawing := ⟨.standard, .standard⟩

/-- Options of the main phone. -/
def mainOptions : FieldOptions :=
  { FieldOptions.standard with collection := some (.literal [.text "[\x7b'number': '1'\x7d]"]) }

/-- The main phone of a contact, and the numbers of all phones. -/
def mainForm : Tree := ⟨"contact", [
  .input "main" mainOptions,
  .hasMany "phones" (fun _ => .nodes [.input "number" .standard]) .standard]⟩

/-- A contact with one phone, for which another number was submitted. -/
def mainContact : Context := { twoPhones with
  record := .table [(.text "phones", .list [.table [(.text "number", .text "1")]])]
  params := [("contact", .table [(.text "phones_attributes",
    .table [(.text "0", .table [(.text "number", .text "2")])])])] }

theorem mainForm_placed {path : List String} {m : String} {n : Form.Node}
    (h : Placed mainPhones mainForm.nodes "contact" path m n) :
    path = [] ∧ m = "contact" ∧ (n = .input "main" mainOptions ∨
      n = .hasMany "phones" (fun _ => .nodes [.input "number" .standard]) .standard) ∨
    n = .input "number" .standard := by
  induction h with
  | top mem =>
    simp only [mainForm, List.mem_cons, List.not_mem_nil, or_false] at mem
    exact Or.inl ⟨rfl, rfl, mem⟩
  | grouped _ _ ih => rcases ih with ⟨-, -, eq | eq⟩ | eq <;> cases eq
  | action _ _ ih => rcases ih with ⟨-, -, eq | eq⟩ | eq <;> cases eq
  | row _ _ mem ih =>
    rcases ih with ⟨-, -, eq | eq⟩ | eq
    · cases eq
    · cases eq
      exact Or.inr (List.mem_singleton.mp mem)
    · cases eq

/-- Phones that are identified by their lines. -/
def linedPhones : Renderer where
  schema := ⟨[
    ⟨"contact", [], [⟨"phones", .many, "id", "phone", none⟩], "id"⟩,
    ⟨"phone", [], [⟨"lines", .many, "id", "line", none⟩], "id"⟩], "lines"⟩
  drawing := ⟨.standard, .standard⟩

/-- The rows of a phone, one for every line. -/
def lineRows (_ : Value) : RowForm := .nodes [.hasMany "lines" (fun _ => .nodes []) .standard]

/-- The lines of all phones. -/
def linesForm : Tree := ⟨"contact", [.hasMany "phones" lineRows .standard]⟩

/-- A contact with a phone of one line, for which another number was submitted. -/
def linedContact : Context := { twoPhones with
  record := .table [(.text "phones", .list [
    .table [(.text "lines", .list [.table [(.text "number", .text "1")]])]])]
  params := [("contact", .table [(.text "phones_attributes",
    .table [(.text "0", .table [(.text "lines_attributes",
      .table [(.text "0", .table [(.text "number", .text "2")])])])])])] }

theorem linesForm_placed {path : List String} {m : String} {n : Form.Node}
    (h : Placed linedPhones linesForm.nodes "contact" path m n) :
    n = .hasMany "phones" lineRows .standard ∨
      n = .hasMany "lines" (fun _ => .nodes []) .standard := by
  induction h with
  | top mem => exact Or.inl (List.mem_singleton.mp mem)
  | grouped _ _ ih => rcases ih with eq | eq <;> cases eq
  | action _ _ ih => rcases ih with eq | eq <;> cases eq
  | row _ _ mem ih =>
    rcases ih with eq | eq
    · cases eq
      exact Or.inr (List.mem_singleton.mp mem)
    · cases eq
      cases mem

theorem mainContact_changed : ChangedByMerging mainPhones mainForm mainContact where
  settled := {
    input := by
      intro path m field o placed
      rcases mainForm_placed placed with ⟨-, rfl, eq | eq⟩ | eq
      · cases eq
        exact ⟨rfl, ⟨_, fun _ _ => rfl⟩, fun _ => by decide +kernel⟩
      · cases eq
      · cases eq
        exact ⟨rfl, ⟨_, fun _ _ => rfl⟩, nofun⟩
    group := by
      intro path m label body o placed
      rcases mainForm_placed placed with ⟨-, -, eq | eq⟩ | eq <;> cases eq
    rows := by
      intro path m relation rows o placed
      rcases mainForm_placed placed with ⟨-, -, eq | eq⟩ | eq
      · cases eq
      · cases eq
        exact fun _ => rfl
      · cases eq }
  named := by
    intro path path' m m' field relation o o' rows placed placed'
    rcases mainForm_placed placed' with ⟨-, -, eq' | eq'⟩ | eq'
    · cases eq'
    · cases eq'
      rcases mainForm_placed placed with ⟨-, -, eq | eq⟩ | eq
      · cases eq
        decide
      · cases eq
      · cases eq
        decide
    · cases eq'
  fits := by
    refine .of_single rfl rfl rfl fun i row at_i => ?_
    match i, at_i with
    | 0, at_i =>
      cases at_i
      exact ⟨by decide +kernel, .of_leaf fun _ => rfl⟩
  markup := by
    have treePlain : Node.AllEverywhere (fun n => n.isPlain) mainForm.nodes :=
      ⟨rfl, ⟨rfl, fun _ => ⟨rfl, trivial⟩⟩, trivial⟩
    exact markup_ne rfl treePlain ⟨by decide, by decide, nofun⟩
      ⟨by decide +kernel, by decide +kernel, nofun⟩ "selected" (by decide +kernel)

theorem linedContact_changed : ChangedByMerging linedPhones linesForm linedContact where
  settled := {
    input := by
      intro path m field o placed
      rcases linesForm_placed placed with eq | eq <;> cases eq
    group := by
      intro path m label body o placed
      rcases linesForm_placed placed with eq | eq <;> cases eq
    rows := by
      intro path m relation rows o placed
      rcases linesForm_placed placed with eq | eq
      · cases eq
        exact fun _ => rfl
      · cases eq
        exact fun _ => rfl }
  named := by
    intro path path' m m' field relation o o' rows placed _
    rcases linesForm_placed placed with eq | eq <;> cases eq
  fits := by
    refine .of_single rfl rfl rfl fun i row at_i => ?_
    match i, at_i with
    | 0, at_i =>
      cases at_i
      refine ⟨by decide +kernel, .of_single rfl rfl (by decide +kernel) fun i row at_i => ?_⟩
      match i, at_i with
      | 0, at_i =>
        cases at_i
        exact ⟨by decide +kernel, .of_leaf fun _ => rfl⟩
  markup := by
    have treePlain : Node.AllEverywhere (fun n => n.isPlain) linesForm.nodes :=
      ⟨⟨rfl, fun _ => ⟨⟨rfl, fun _ => trivial⟩, trivial⟩⟩, trivial⟩
    exact markup_ne rfl treePlain ⟨by decide, by decide, nofun⟩
      ⟨by decide +kernel, by decide +kernel, nofun⟩ "value" (by decide +kernel)

/-- **Related records that are read as values.** Neither a key of an input nor the identity of rows
may be a relation. -/
theorem merging_changes : ChangedByMerging mainPhones mainForm mainContact ∧
    ChangedByMerging linedPhones linesForm linedContact :=
  ⟨mainContact_changed, linedContact_changed⟩

end Render

end Formwright
