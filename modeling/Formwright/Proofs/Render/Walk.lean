import Mathlib.Data.List.Forall2
import Formwright.Proofs.Form.Everywhere
import Formwright.Proofs.Outcome
import Formwright.Render.Form

/-!
# Walks over a tree

Two walks over one tree, in different contexts, from different frames and with different inputs, are
compared node by node. `Simulation` lists what each kind of node has to preserve; the induction over
the tree is done here once. An invariant of a single walk is the case of a walk beside itself.

- `RowsMet`: the rows of a relation side by side, the template included.
- `Simulation`, `Simulation.node_alike`: two walks.
- `Invariant`, `Invariant.nodes_holds`: one walk.
- `Simulation.of_eq`: two walks of the same inputs.
-/

namespace Formwright

namespace Render

open Form Outcome

/-! ## Relations -/

/-- What is read of a relation: its association, the related records and what was submitted. -/
theorem Renderer.relation_inv {r : Renderer} {f : Frame} {field : String} {rel : Renderer.Relation}
    (h : r.relation f field = .ok rel) :
    (∃ a, r.schema.association? f.model field = .ok (some a) ∧ rel.related = a.relatedModel) ∧
      (f.record.field field).membersOrNone = .ok rel.records ∧
      rel.submitted = .ofOption (f.submitted? (FieldScope.rowsKey field)) := by
  unfold Renderer.relation at h
  obtain ⟨assoc, found, h⟩ := bind_eq_ok.mp h
  split at h
  · split at h
    · obtain ⟨records, members, h⟩ := bind_eq_ok.mp h
      cases h
      exact ⟨⟨_, found, rfl⟩, members, rfl⟩
    · cases h
  · cases h

/-! ## What nodes are drawn from -/

namespace Renderer

variable {r : Renderer} {draw : Drawer} {c : Context} {f : Frame}

theorem nodes_cons_inv {n : Form.Node} {rest : List Form.Node} {parts : List Output}
    (h : r.nodes draw c f (n :: rest) = .ok parts) :
    ∃ first others, r.node draw c f n = .ok first ∧ r.nodes draw c f rest = .ok others ∧
      parts = first :: others := by
  simp only [nodes] at h
  obtain ⟨first, drawn, h⟩ := bind_eq_ok.mp h
  obtain ⟨others, drawnRest, h⟩ := bind_eq_ok.mp h
  cases h
  exact ⟨first, others, drawn, drawnRest, rfl⟩

/-- A block is drawn from the rows of the related records and from the template, in this order. -/
theorem node_hasMany_inv {field : String} {rows : Value → RowForm} {o : FieldOptions}
    {out : Output} (h : r.node draw c f (.hasMany field rows o) = .ok out) :
    ∃ rel drawn blank template, r.relation f field = .ok rel ∧
      drawRows (fun index record =>
        r.rowForm draw c (rowFrame rel f field index record) (rows record) >>=
          r.row (rowFrame rel f field index record) field) 0 rel.records = .ok drawn ∧
      r.rowForm draw c (templateFrame rel f field) (rows .none) = .ok blank ∧
      r.templateRow (templateFrame rel f field) field blank = .ok template ∧
      r.hasMany f field drawn template = .ok out := by
  simp only [node] at h
  obtain ⟨rel, found, h⟩ := bind_eq_ok.mp h
  obtain ⟨drawn, rowsDrawn, h⟩ := bind_eq_ok.mp h
  obtain ⟨blank, blankDrawn, h⟩ := bind_eq_ok.mp h
  obtain ⟨template, templateDrawn, h⟩ := bind_eq_ok.mp h
  exact ⟨rel, drawn, blank, template, found, rowsDrawn, blankDrawn, templateDrawn, h⟩

end Renderer

/-! ## Rows side by side -/

section Rows

variable (meets : Form.Node → Frame → Frame → Prop) (f f' : Frame)

/-- The nodes of a row are met in both frames. -/
def RowFormMet : RowForm → Prop
  | .nodes body => ∀ n ∈ body, meets n f f'
  | .fault _ => f.model = f'.model

/-- The builder gives the same nodes for the records of both frames, and they are met in both. -/
structure BuiltMet (rows : Value → RowForm) : Prop where
  same : rows f.record = rows f'.record
  met : RowFormMet meets f f' (rows f.record)

variable {meets f f'} {p : Form.Node → Prop}

/-- Nodes that have a property everywhere are met in both frames. -/
theorem rowFormMet_of_everywhere {form : RowForm} (has : form.Everywhere p)
    (each : ∀ n : Form.Node, n.Everywhere p → meets n f f') (model : f.model = f'.model) :
    RowFormMet meets f f' form := by
  cases form with
  | nodes body => exact fun n hn => each n (Form.Node.allEverywhere_iff.mp has n hn)
  | fault fault => exact model

end Rows

/-- There are as many rows on both sides, and each row is met beside the one of its index. -/
structure RowsMet (beside : Frame → Frame → Prop) (meets : Form.Node → Frame → Frame → Prop)
    (f f' : Frame) (field : String) (rows : Value → RowForm) (rel rel' : Renderer.Relation) :
    Prop where
  length : rel.records.length = rel'.records.length
  row : ∀ (i : Nat) (record record' : Value), rel.records[i]? = some record →
    rel'.records[i]? = some record' →
    beside (Renderer.rowFrame rel f field i record) (Renderer.rowFrame rel' f' field i record') ∧
    BuiltMet meets (Renderer.rowFrame rel f field i record)
      (Renderer.rowFrame rel' f' field i record') rows
  template :
    beside (Renderer.templateFrame rel f field) (Renderer.templateFrame rel' f' field) ∧
    BuiltMet meets (Renderer.templateFrame rel f field)
      (Renderer.templateFrame rel' f' field) rows

/-! ## Two walks -/

/-- Two walks of one tree agree node by node. `beside` relates the frames of rows, `meets` says
which nodes are met in which frames, and `agree` relates what is drawn in a frame; `agreeRow`
relates the rows around it. -/
structure Simulation (r : Renderer) (draw draw' : Drawer) (c c' : Context)
    (beside : Frame → Frame → Prop) (meets : Form.Node → Frame → Frame → Prop)
    (agree agreeRow : Frame → Output → Output → Prop) : Prop where
  input : ∀ {f f' field o}, meets (.input field o) f f' →
    Alike (agree f) (draw f field o) (draw' f' field o)
  content : ∀ {f f' content isMarkup}, meets (.content content isMarkup) f f' →
    agree f (.ofHtml [.piece (if isMarkup then .markup content else .text content)])
      (.ofHtml [.piece (if isMarkup then .markup content else .text content)])
  script : ∀ {f f' script}, meets (.script script) f f' →
    Alike (agree f) (r.script script) (r.script script)
  lines : ∀ {f parts parts'}, List.Forall₂ (agree f) parts parts' →
    agree f (.lines parts) (.lines parts')
  group : ∀ {f f' label body o}, meets (.fieldset label body o) f f' → ∀ n ∈ body, meets n f f'
  fieldset : ∀ {f f' label body o out out'}, meets (.fieldset label body o) f f' →
    agree f out out' → Alike (agree f) (r.fieldset c label o out) (r.fieldset c' label o out')
  grouped : ∀ {f f' body}, meets (.actions body) f f' → ∀ n ∈ body, meets n f f'
  actions : ∀ {f f' body out out'}, meets (.actions body) f f' → agree f out out' →
    Alike (agree f) (r.actions out) (r.actions out')
  relation : ∀ {f f' field rows o}, meets (.hasMany field rows o) f f' →
    Alike (RowsMet beside meets f f' field rows) (r.relation f field) (r.relation f' field)
  row : ∀ {f f' field out out'}, beside f f' → agree f out out' →
    Alike (agreeRow f) (r.row f field out) (r.row f' field out')
  templateRow : ∀ {f f' field out out'}, beside f f' → agree f out out' →
    Alike (agreeRow f) (r.templateRow f field out) (r.templateRow f' field out')
  block : ∀ {f f' field rows o rel rel' drawn drawn' template template'},
    meets (.hasMany field rows o) f f' → r.relation f field = .ok rel →
    r.relation f' field = .ok rel' →
    List.Forall₂ (fun out out' => ∃ (i : Nat) (record : Value), rel.records[i]? = some record ∧
      agreeRow (Renderer.rowFrame rel f field i record) out out') drawn drawn' →
    agreeRow (Renderer.templateFrame rel f field) template template' →
    Alike (agree f) (r.hasMany f field drawn template) (r.hasMany f' field drawn' template')

/-- Rows drawn alike one by one are drawn alike in a row. -/
theorem drawRows_alike {draw draw' : Nat → Value → Except Fault Output}
    {R : Output → Output → Prop} {records records' : List Value} {index : Nat}
    (length : records.length = records'.length)
    (each : ∀ (i : Nat) (record record' : Value), records[i]? = some record →
      records'[i]? = some record' →
      Alike R (draw (index + i) record) (draw' (index + i) record')) :
    Alike (List.Forall₂ R) (Renderer.drawRows draw index records)
      (Renderer.drawRows draw' index records') := by
  induction records generalizing index records' with
  | nil =>
    cases records' with
    | nil => exact .ok .nil
    | cons _ _ => cases length
  | cons record rest ih =>
    cases records' with
    | nil => cases length
    | cons record' rest' =>
      refine (each 0 record record' rfl rfl).bind fun a b _ _ related => ?_
      refine Alike.bind (R := List.Forall₂ R) ?_ fun as bs _ _ relatedRest =>
        .ok (.cons related relatedRest)
      refine ih (by simpa using length) fun i v v' hv hv' => ?_
      have := each (i + 1) v v' hv hv'
      rwa [Nat.add_assoc, Nat.add_comm 1 i]

namespace Simulation

variable {r : Renderer} {draw draw' : Drawer} {c c' : Context}
  {beside : Frame → Frame → Prop} {meets : Form.Node → Frame → Frame → Prop}
  {agree agreeRow : Frame → Output → Output → Prop}

mutual

/-- **Two walks side by side.** A node met in two frames is drawn alike in both. -/
theorem node_alike (sim : Simulation r draw draw' c c' beside meets agree agreeRow) :
    ∀ (n : Form.Node) {f f' : Frame}, meets n f f' →
      Alike (agree f) (r.node draw c f n) (r.node draw' c' f' n)
  | .input field o, f, f', met => by
    simp only [Renderer.node]
    exact sim.input met
  | .content content isMarkup, f, f', met => by
    simp only [Renderer.node]
    exact .ok (sim.content met)
  | .script script, f, f', met => by
    simp only [Renderer.node]
    exact sim.script met
  | .fieldset label body o, f, f', met => by
    simp only [Renderer.node]
    exact (sim.nodes_alike body (sim.group met)).bind fun parts parts' _ _ related =>
      sim.fieldset met (sim.lines related)
  | .actions body, f, f', met => by
    simp only [Renderer.node]
    exact (sim.nodes_alike body (sim.grouped met)).bind fun parts parts' _ _ related =>
      sim.actions met (sim.lines related)
  | .hasMany field rows o, f, f', met => by
    simp only [Renderer.node]
    refine (sim.relation met).bind fun rel rel' found found' rowsMet => ?_
    -- the rows come first, each beside the one of its index, and then the template
    refine (drawRows_alike rowsMet.length (R := fun out out' => ∃ (i : Nat) (record : Value),
      rel.records[i]? = some record ∧
        agreeRow (Renderer.rowFrame rel f field i record) out out') ?_).bind ?_
    · intro i record record' at_i at_i'
      rw [Nat.zero_add]
      obtain ⟨sideBySide, built⟩ := rowsMet.row i record record' at_i at_i'
      have sameForm : rows record = rows record' := built.same
      rw [← sameForm]
      refine (sim.rowForm_alike (rows record) built.met).bind fun out out' _ _ related => ?_
      exact (sim.row sideBySide related).mono fun a b rowRelated => ⟨i, record, at_i, rowRelated⟩
    · intro drawn drawn' _ _ rowsRelated
      obtain ⟨sideBySide, built⟩ := rowsMet.template
      refine (sim.rowForm_alike (rows .none) built.met).bind fun out out' _ _ related => ?_
      exact (sim.templateRow sideBySide related).bind fun template template' _ _ drawnAlike =>
        sim.block met found found' rowsRelated drawnAlike

theorem nodes_alike (sim : Simulation r draw draw' c c' beside meets agree agreeRow) :
    ∀ (ns : List Form.Node) {f f' : Frame}, (∀ n ∈ ns, meets n f f') →
      Alike (List.Forall₂ (agree f)) (r.nodes draw c f ns) (r.nodes draw' c' f' ns)
  | [], f, f', _ => by
    simp only [Renderer.nodes]
    exact .ok .nil
  | n :: rest, f, f', met => by
    simp only [Renderer.nodes]
    refine (sim.node_alike n (met n List.mem_cons_self)).bind fun a b _ _ related => ?_
    exact (sim.nodes_alike rest fun m hm => met m (List.mem_cons_of_mem n hm)).bind
      fun as bs _ _ relatedRest => .ok (.cons related relatedRest)

theorem rowForm_alike (sim : Simulation r draw draw' c c' beside meets agree agreeRow) :
    ∀ (form : RowForm) {f f' : Frame}, RowFormMet meets f f' form →
      Alike (agree f) (r.rowForm draw c f form) (r.rowForm draw' c' f' form)
  | .nodes body, f, f', met => by
    simp only [Renderer.rowForm]
    exact (sim.nodes_alike body met).bind fun parts parts' _ _ related => .ok (sim.lines related)
  | .fault fault, f, f', sameModel => by
    simp only [Renderer.rowForm]
    have sameModel : f.model = f'.model := sameModel
    rw [sameModel]
    exact .error _

end

end Simulation

/-! ## One walk -/

end Render

namespace Form

open Render

/-- The nodes of a row are met in a frame. -/
def RowForm.Met (meets : Node → Frame → Prop) (f : Frame) : RowForm → Prop
  | .nodes body => ∀ n ∈ body, meets n f
  | .fault _ => True

theorem RowForm.met_of_everywhere {meets : Node → Frame → Prop} {f : Frame} {p : Node → Prop}
    {form : RowForm} (has : form.Everywhere p)
    (each : ∀ n : Node, n.Everywhere p → meets n f) : form.Met meets f := by
  cases form with
  | nodes body => exact fun n hn => each n (Node.allEverywhere_iff.mp has n hn)
  | fault fault => trivial

theorem RowForm.Met.beside_self {meets : Node → Frame → Prop} {f : Frame}
    {rows : Value → RowForm} (met : (rows f.record).Met meets f) :
    BuiltMet (fun n f f' => f = f' ∧ meets n f) f f rows where
  same := rfl
  met := by
    cases given : rows f.record with
    | nodes body =>
      rw [given] at met
      exact fun n hn => ⟨rfl, met n hn⟩
    | fault fault => exact rfl

end Form

namespace Render

open Form Outcome

/-- One walk of a tree keeps an invariant node by node: `within` holds of the frames of rows,
`meets` says which nodes are met in which frames, and `holds` is what is shown of what is drawn in a
frame, `holdsRow` of the rows around it. -/
structure Invariant (r : Renderer) (draw : Drawer) (c : Context) (within : Frame → Prop)
    (meets : Form.Node → Frame → Prop) (holds holdsRow : Frame → Output → Prop) : Prop where
  input : ∀ {f field o out}, meets (.input field o) f → draw f field o = .ok out → holds f out
  content : ∀ {f content isMarkup}, meets (.content content isMarkup) f →
    holds f (.ofHtml [.piece (if isMarkup then .markup content else .text content)])
  script : ∀ {f script out}, meets (.script script) f → r.script script = .ok out → holds f out
  lines : ∀ {f parts}, (∀ part ∈ parts, holds f part) → holds f (.lines parts)
  group : ∀ {f label body o}, meets (.fieldset label body o) f → ∀ n ∈ body, meets n f
  fieldset : ∀ {f label body o body' out}, meets (.fieldset label body o) f → holds f body' →
    r.fieldset c label o body' = .ok out → holds f out
  grouped : ∀ {f body}, meets (.actions body) f → ∀ n ∈ body, meets n f
  actions : ∀ {f body body' out}, meets (.actions body) f → holds f body' →
    r.actions body' = .ok out → holds f out
  relation : ∀ {f field rows o rel}, meets (.hasMany field rows o) f →
    r.relation f field = .ok rel →
    (∀ (i : Nat) (record : Value), rel.records[i]? = some record →
      within (Renderer.rowFrame rel f field i record) ∧
        (rows record).Met meets (Renderer.rowFrame rel f field i record)) ∧
    within (Renderer.templateFrame rel f field) ∧
      (rows .none).Met meets (Renderer.templateFrame rel f field)
  row : ∀ {f field body out}, within f → holds f body → r.row f field body = .ok out →
    holdsRow f out
  templateRow : ∀ {f field body out}, within f → holds f body →
    r.templateRow f field body = .ok out → holdsRow f out
  block : ∀ {f field rows o rel drawn template out}, meets (.hasMany field rows o) f →
    r.relation f field = .ok rel →
    (∀ part ∈ drawn, ∃ (i : Nat) (record : Value), rel.records[i]? = some record ∧
      holdsRow (Renderer.rowFrame rel f field i record) part) →
    holdsRow (Renderer.templateFrame rel f field) template →
    r.hasMany f field drawn template = .ok out → holds f out

namespace Invariant

variable {r : Renderer} {draw : Drawer} {c : Context} {within : Frame → Prop}
  {meets : Form.Node → Frame → Prop} {holds holdsRow : Frame → Output → Prop}

theorem forall₂_same {α : Type} {P : α → Prop} {xs ys : List α}
    (h : List.Forall₂ (fun a b => a = b ∧ P a) xs ys) : xs = ys ∧ ∀ a ∈ xs, P a := by
  induction h with
  | nil => exact ⟨rfl, by simp⟩
  | cons head _ ih =>
    obtain ⟨rfl, holdsHead⟩ := head
    obtain ⟨rfl, holdsRest⟩ := ih
    exact ⟨rfl, by simpa using ⟨holdsHead, holdsRest⟩⟩

/-- A walk beside itself. -/
theorem simulation (inv : Invariant r draw c within meets holds holdsRow) :
    Simulation r draw draw c c (fun f f' => f = f' ∧ within f) (fun n f f' => f = f' ∧ meets n f)
      (fun f out out' => out = out' ∧ holds f out)
      (fun f out out' => out = out' ∧ holdsRow f out) where
  input := by
    rintro f _ field o ⟨rfl, met⟩
    exact Alike.refl fun out drawn => ⟨rfl, inv.input met drawn⟩
  content := by
    rintro f _ content isMarkup ⟨rfl, met⟩
    exact ⟨rfl, inv.content met⟩
  script := by
    rintro f _ script ⟨rfl, met⟩
    exact Alike.refl fun out drawn => ⟨rfl, inv.script met drawn⟩
  lines := by
    intro f parts parts' related
    obtain ⟨rfl, all⟩ := forall₂_same related
    exact ⟨rfl, inv.lines all⟩
  group := by
    rintro f _ label body o ⟨rfl, met⟩ n hn
    exact ⟨rfl, inv.group met n hn⟩
  fieldset := by
    rintro f _ label body o out _ ⟨rfl, met⟩ ⟨rfl, held⟩
    exact Alike.refl fun out' drawn => ⟨rfl, inv.fieldset met held drawn⟩
  grouped := by
    rintro f _ body ⟨rfl, met⟩ n hn
    exact ⟨rfl, inv.grouped met n hn⟩
  actions := by
    rintro f _ body out _ ⟨rfl, met⟩ ⟨rfl, held⟩
    exact Alike.refl fun out' drawn => ⟨rfl, inv.actions met held drawn⟩
  relation := by
    rintro f _ field rows o ⟨rfl, met⟩
    refine Alike.refl fun rel found => ?_
    obtain ⟨rowsMet, insideTemplate, templateMet⟩ := inv.relation met found
    refine ⟨rfl, ?_, ⟨⟨rfl, insideTemplate⟩, templateMet.beside_self⟩⟩
    intro i record record' at_i at_i'
    obtain rfl : record = record' := Option.some.inj (at_i.symm.trans at_i')
    obtain ⟨inside, forms⟩ := rowsMet i record at_i
    exact ⟨⟨rfl, inside⟩, forms.beside_self⟩
  row := by
    rintro f _ field out _ ⟨rfl, inside⟩ ⟨rfl, held⟩
    exact Alike.refl fun out' drawn => ⟨rfl, inv.row inside held drawn⟩
  templateRow := by
    rintro f _ field out _ ⟨rfl, inside⟩ ⟨rfl, held⟩
    exact Alike.refl fun out' drawn => ⟨rfl, inv.templateRow inside held drawn⟩
  block := by
    rintro f _ field rows o rel rel' drawn drawn' template _ ⟨rfl, met⟩ found found' related
      ⟨rfl, held⟩
    obtain rfl : rel = rel' := Except.ok.inj (found.symm.trans found')
    have same : List.Forall₂ (fun a b => a = b ∧ ∃ (i : Nat) (record : Value),
        rel.records[i]? = some record ∧
          holdsRow (Renderer.rowFrame rel f field i record) a) drawn drawn' :=
      related.imp fun a b ⟨i, record, at_i, eq, heldRow⟩ => ⟨eq, i, record, at_i, heldRow⟩
    obtain ⟨rfl, all⟩ := forall₂_same same
    exact Alike.refl fun out drawnBlock => ⟨rfl, inv.block met found all held drawnBlock⟩

theorem rowForm_holds (inv : Invariant r draw c within meets holds holdsRow) {form : RowForm}
    {f : Frame} (met : form.Met meets f) {out : Output}
    (drawn : r.rowForm draw c f form = .ok out) : holds f out := by
  have beside : BuiltMet (fun n f f' => f = f' ∧ meets n f) f f fun _ => form :=
    RowForm.Met.beside_self met
  obtain ⟨_, _, _, held⟩ :=
    (inv.simulation.rowForm_alike form beside.met).exists_of_ok drawn
  exact held

/-- **An invariant of a walk.** What is drawn of nodes keeps the invariant. -/
theorem nodes_holds (inv : Invariant r draw c within meets holds holdsRow) {ns : List Form.Node}
    {f : Frame} (met : ∀ n ∈ ns, meets n f) {parts : List Output}
    (drawn : r.nodes draw c f ns = .ok parts) :
    ∀ part ∈ parts, holds f part := by
  obtain ⟨parts', _, related⟩ :=
    (inv.simulation.nodes_alike ns fun n hn => ⟨rfl, met n hn⟩).exists_of_ok drawn
  exact (forall₂_same related).2

end Invariant

/-! ## Equal walks -/

/-- Two walks from one frame, of inputs that are drawn the same, draw the same. -/
theorem Simulation.of_eq {r : Renderer} {draw draw' : Drawer} {c c' : Context}
    {meets : Form.Node → Frame → Prop}
    (input : ∀ {f field o}, meets (.input field o) f → draw f field o = draw' f field o)
    (isEditing : c.isEditing = c'.isEditing)
    (group : ∀ {f label body o}, meets (.fieldset label body o) f → ∀ n ∈ body, meets n f)
    (grouped : ∀ {f body}, meets (.actions body) f → ∀ n ∈ body, meets n f)
    (rows : ∀ {f field rows o}, meets (.hasMany field rows o) f →
      ∀ row : Frame, row.bindErrors = false → (rows row.record).Met meets row) :
    Simulation r draw draw' c c' (fun f f' => f = f') (fun n f f' => f = f' ∧ meets n f)
      (fun _ out out' => out = out') (fun _ out out' => out = out') where
  input := by
    rintro f _ field o ⟨rfl, met⟩
    rw [input met]
    exact Alike.refl fun _ _ => rfl
  content _ := rfl
  script _ := Alike.refl fun _ _ => rfl
  lines := by
    intro f parts parts' related
    rw [List.forall₂_eq_eq_eq] at related
    rw [related]
  group := by
    rintro f _ label body o ⟨rfl, met⟩ n hn
    exact ⟨rfl, group met n hn⟩
  fieldset := by
    rintro f _ label body o out _ _ rfl
    rw [show r.fieldset c label o out = r.fieldset c' label o out by
      simp only [Renderer.fieldset, isEditing]]
    exact Alike.refl fun _ _ => rfl
  grouped := by
    rintro f _ body ⟨rfl, met⟩ n hn
    exact ⟨rfl, grouped met n hn⟩
  actions := by
    rintro f _ body out _ _ rfl
    exact Alike.refl fun _ _ => rfl
  relation := by
    rintro f _ field forms o ⟨rfl, met⟩
    refine Alike.refl fun rel found => ⟨rfl, fun i record record' at_i at_i' => ?_, rfl, ?_⟩
    · obtain rfl : record = record' := Option.some.inj (at_i.symm.trans at_i')
      exact ⟨rfl, (rows met _ rfl).beside_self⟩
    · exact (rows met _ rfl).beside_self
  row := by
    rintro f _ field out _ rfl rfl
    exact Alike.refl fun _ _ => rfl
  templateRow := by
    rintro f _ field out _ rfl rfl
    exact Alike.refl fun _ _ => rfl
  block := by
    rintro f _ field rows o rel rel' drawn drawn' template _ ⟨rfl, -⟩ _ _ related rfl
    obtain rfl : drawn = drawn' := by
      rw [← List.forall₂_eq_eq_eq]
      exact related.imp fun a b ⟨_, _, _, eq⟩ => eq
    exact Alike.refl fun _ _ => rfl

/-! ## A form of contacts -/

/-- Contacts with phones. -/
def Renderer.addressBook : Renderer where
  schema := ⟨[
    ⟨"contact", [⟨"name", "string"⟩], [⟨"phones", .many, "phones", "phone", none⟩], "id"⟩,
    ⟨"phone", [⟨"number", "string"⟩], [], "id"⟩], "id"⟩
  drawing := ⟨.standard, .standard⟩

/-- The name of a contact and the numbers of its phones. -/
def Renderer.contactForm : Tree := ⟨"contact", [
  .input "name" .standard,
  .hasMany "phones" (fun _ => .nodes [.input "number" .standard]) .standard]⟩

/-- A property of the three nodes of the form is one of all its nodes. -/
theorem Renderer.contactForm_everywhere {p : Form.Node → Prop}
    (name : p (.input "name" .standard)) (number : p (.input "number" .standard))
    (phones : p (.hasMany "phones" (fun _ => .nodes [.input "number" .standard]) .standard)) :
    Form.Node.AllEverywhere p contactForm.nodes :=
  ⟨name, ⟨phones, fun _ => ⟨number, trivial⟩⟩, trivial⟩

end Render

end Formwright
