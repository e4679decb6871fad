import Formwright.Proofs.Render.Offered
import Formwright.Proofs.Render.Submission

/-!
# Choosing again

What is chosen of a has-many association is submitted as a list of texts, or as a table of those that
are checked, and is read back from either. A choice that is submitted as it was shown is shown again,
in a row as well as at the top, and an empty one too: it is submitted as well, so that the related
records are not looked at.

- `chosenIn`, `selection`: what is chosen in a markup, and what is submitted for it.
- `chosenIds_selection`: what is submitted is read back.
- `Renderer.frame?`: the frame of the row at the end of a way.
- `Renderer.selection_kept`: the main result.
-/

namespace Formwright

open Html Outcome

/-! ## Submitted choices -/

/-- The values that are marked as chosen. -/
def chosenIn (hs : List Html) : List String :=
  ((offeredAll hs).filter (·.marked)).map (·.value)

/-- What a choice of any number of members submits: its empty input always comes first, unless boxes
with names of their own take its place. -/
def selection (style : CollectionStyle) (chosen : List String) : Value :=
  match style with
  | .checkBoxes =>
    if chosen.isEmpty then .list [.text ""]
    else .table (chosen.eraseDups.map fun v => (.text v, .text v))
  | .select | .radio => .list (.text "" :: chosen.map .text)

namespace Render

/-- The blank text of a list stands for no choice, and every other text for itself. -/
theorem chosenIds_list {chosen : List String} (proper : ∀ v ∈ chosen, v ≠ "") :
    (chosenIds (.list (.text "" :: chosen.map .text))).map Value.toText = chosen := by
  have kept : (chosen.map Value.text).filter (fun v => !(v.isNone || v.isText "")) =
      chosen.map Value.text := by
    rw [List.filter_eq_self]
    intro w mem
    obtain ⟨text, given, rfl⟩ := List.mem_map.mp mem
    simpa [Value.isNone] using proper text given
  have blank : (!((Value.text "").isNone || (Value.text "").isText "")) = false := rfl
  rw [chosenIds, List.filter_cons, blank, if_neg Bool.false_ne_true, kept, List.map_map]
  exact List.map_id _

/-- Every box of a table that is checked stands for its value. -/
theorem chosenIds_table {checked : List String} (proper : ∀ v ∈ checked, v ≠ "" ∧ v ≠ "false") :
    (chosenIds (.table (checked.map fun v => (.text v, .text v)))).map Value.toText = checked := by
  have kept : (checked.map fun v => (Value.text v, Value.text v)).filter
      (fun e => !isUnchosen e.2) = checked.map fun v => (Value.text v, Value.text v) := by
    rw [List.filter_eq_self]
    intro e mem
    obtain ⟨text, given, rfl⟩ := List.mem_map.mp mem
    simpa [isUnchosen, Value.isNone] using proper text given
  rw [chosenIds, kept, List.map_map, List.map_map]
  exact List.map_id _

/-- **Submitted choices are read back.** -/
theorem chosenIds_selection {style : CollectionStyle} {chosen : List String}
    (proper : ∀ v ∈ chosen, v ≠ "" ∧ v ≠ "false") (v : String) :
    v ∈ (chosenIds (selection style chosen)).map Value.toText ↔ v ∈ chosen := by
  have listed := chosenIds_list fun v mem => (proper v mem).1
  cases style with
  | select => rw [selection, listed]
  | radio => rw [selection, listed]
  | checkBoxes =>
    rw [selection]
    cases chosen with
    | nil => exact Iff.rfl
    | cons first rest =>
      rw [List.isEmpty_cons, if_neg Bool.false_ne_true,
        chosenIds_table fun v mem => proper v (List.mem_eraseDups.mp mem)]
      exact List.mem_eraseDups

end Render

/-! ## The same control -/

namespace Drawing

variable {d : Drawing} {desc desc' : Descriptor} {o : FieldOptions}

theorem membersMarkup_same (id : desc.id = desc'.id) (name : desc.name = desc'.name)
    {selected selected' : List String} {texts : List (String × String)}
    (same : ∀ t ∈ texts, memberChoice selected t = memberChoice selected' t)
    (style : CollectionStyle) :
    membersMarkup desc style selected texts = membersMarkup desc' style selected' texts := by
  have names : ∀ value, memberName desc style value = memberName desc' style value := by
    intro value
    rw [memberName, memberName, name]
  have boxes : ∀ group label type, boxesMarkup desc style selected group label type texts =
      boxesMarkup desc' style selected' group label type texts := by
    intro group label type
    rw [boxesMarkup, boxesMarkup, List.flatMap_congr fun t mem => by rw [same t mem, names, id]]
  cases style with
  | checkBoxes => exact boxes _ _ _
  | radio => exact boxes _ _ _
  | select =>
    rw [membersMarkup, membersMarkup, listMarkup, listMarkup, id, name,
      List.flatMap_congr fun t mem => by rw [same t mem]]

/-- A choice of any number of members is drawn alike if it chooses the same of them. -/
theorem many_same (standard : d.theme = .standard) (id : desc.id = desc'.id)
    (name : desc.name = desc'.name) (errors : desc.errors = desc'.errors) {items : List Value}
    {identity : Value → Value} {chosen chosen' : List Value}
    (same : ∀ texts, items.mapM (memberText (isLiteralCollection items) o identity) = .ok texts →
      ∀ t ∈ texts, memberChoice (chosen.map Value.toText) t =
        memberChoice (chosen'.map Value.toText) t) :
    d.many desc items o identity chosen = d.many desc' items o identity chosen' := by
  rw [many_eq standard, many_eq standard]
  cases read : items.mapM (memberText (isLiteralCollection items) o identity) with
  | error e => rfl
  | ok texts =>
    rw [ok_bind, ok_bind, withErrors, withErrors, manyMarkup, manyMarkup, name, errors,
      membersMarkup_same id name (same texts read)]

/-- A member is shown as chosen if its value is selected, whichever member of that value is. -/
theorem mem_chosenIn {selected : List String} {texts : List (String × String)} {hs : List Html}
    (offered : offeredAll hs = texts.map fun t => (memberChoice selected t).offer)
    {t : String × String} (mem : t ∈ texts) :
    t.1 ∈ chosenIn hs ↔ selected.contains t.1 = true := by
  rw [chosenIn, offered, List.mem_map]
  constructor
  · rintro ⟨offer, mem, same⟩
    obtain ⟨isOffer, marked⟩ := List.mem_filter.mp mem
    obtain ⟨u, -, rfl⟩ := List.mem_map.mp isOffer
    have same : u.1 = t.1 := same
    rw [← same]
    exact marked
  · intro marked
    exact ⟨_, List.mem_filter.mpr ⟨List.mem_map_of_mem mem, marked⟩, rfl⟩

/-- A choice that is submitted as it is shown is shown as it is. -/
theorem many_again (desc desc' : Descriptor) (standard : d.theme = .standard)
    (id : desc.id = desc'.id) (name : desc.name = desc'.name)
    (errors : desc.errors = desc'.errors) {items : List Value}
    {identity : Value → Value} {chosen : List Value} {hs : List Html}
    (drawn : d.many desc items o identity chosen = .ok hs)
    (proper : ∀ offer ∈ offeredAll hs, offer.value ≠ "" ∧ offer.value ≠ "false") :
    d.many desc' items o identity
      (Render.chosenIds (selection (o.style.getD .select) (chosenIn hs))) = .ok hs := by
  obtain ⟨texts, read, offered⟩ := many_offered standard drawn
  rw [← drawn]
  refine (many_same standard id name errors fun texts' read' t mem => ?_).symm
  obtain rfl : texts = texts' := Except.ok.inj (read.symm.trans read')
  have properChosen : ∀ v ∈ chosenIn hs, v ≠ "" ∧ v ≠ "false" := by
    intro v isChosen
    obtain ⟨offer, mem, rfl⟩ := List.mem_map.mp isChosen
    exact proper offer (List.mem_filter.mp mem).1
  rw [memberChoice, memberChoice, SelectOption.mk.injEq]
  refine ⟨rfl, rfl, ?_⟩
  rw [Bool.eq_iff_iff, ← mem_chosenIn offered mem, List.contains_iff_mem]
  exact (Render.chosenIds_selection properChosen t.1).symm

end Drawing

namespace Render.Renderer

/-! ## Rows -/

/-- The frame of the row at the end of a way, if there is one. -/
def frame? (r : Renderer) (f : Frame) : Way → Option Frame
  | [] => some f
  | (relation, i) :: rest => do
    let rel ← (r.relation f relation).toOption
    let record ← rel.records[i]?
    r.frame? (rowFrame rel f relation i record) rest

variable {r : Renderer} {c c' : Context} {f f' g : Frame} {field : String} {o : FieldOptions}

theorem frame?_row {relation : String} {i : Nat} {rest : Way} :
    r.frame? f ((relation, i) :: rest) = some g ↔ ∃ rel record, r.relation f relation = .ok rel ∧
      rel.records[i]? = some record ∧ r.frame? (rowFrame rel f relation i record) rest = some g := by
  rw [frame?]
  cases found : r.relation f relation with
  | error e => simp [Except.toOption]
  | ok rel => simp [Except.toOption, Option.bind_eq_some_iff]

theorem frame?_scope {way : Way} (reached : r.frame? f way = some g) :
    g.scope = f.scope.along way := by
  induction way generalizing f with
  | nil =>
    cases reached
    rfl
  | cons step rest ih =>
    obtain ⟨relation, i⟩ := step
    obtain ⟨rel, record, -, -, reached⟩ := frame?_row.mp reached
    exact ih reached

/-- A way leads to the same row whatever was submitted. -/
theorem frame?_same {way : Way} (reached : r.frame? f way = some g) (place : SamePlace f f')
    (record : f.record = f'.record) :
    ∃ g', r.frame? f' way = some g' ∧ SamePlace g g' ∧ g.record = g'.record := by
  induction way generalizing f f' with
  | nil =>
    cases reached
    exact ⟨f', rfl, place, record⟩
  | cons step rest ih =>
    obtain ⟨relation, i⟩ := step
    obtain ⟨rel, row, found, at_i, reached⟩ := frame?_row.mp reached
    have members : Alike Eq (f.record.field relation).membersOrNone
        (f'.record.field relation).membersOrNone := by
      rw [← record]
      exact Alike.refl fun _ _ => rfl
    obtain ⟨rel', found', same⟩ := (relation_same place.model members).exists_of_ok found
    have rowPlace : SamePlace (rowFrame rel f relation i row) (rowFrame rel' f' relation i row) := by
      refine ⟨same.related, ?_, rfl⟩
      rw [rowFrame, rowFrame, place.scope]
    obtain ⟨g', reached', atEnd⟩ := ih reached rowPlace rfl
    rw [same.records] at at_i
    exact ⟨g', frame?_row.mpr ⟨rel', row, found', at_i, reached'⟩, atEnd⟩

/-- A value that is submitted on the way to a row is submitted there. -/
theorem frame?_submitted {way : Way} {key : String} {v : Value}
    (reached : r.frame? f way = some g) (values : f.values = some (way.submission key v)) :
    g.submitted? key = some v := by
  induction way generalizing f with
  | nil =>
    cases reached
    rw [Frame.submitted?, values]
    simp [Way.submission, Value.named?_cons]
  | cons step rest ih =>
    obtain ⟨relation, i⟩ := step
    obtain ⟨rel, row, found, -, reached⟩ := frame?_row.mp reached
    refine ih reached ?_
    rw [rowFrame, (relation_inv found).2.2]
    exact (submitted_rows values i).trans (if_pos rfl)

/-! ## The same input -/

/-- What is put around a control in its item offers nothing. -/
theorem item_offered (standard : r.drawing.theme = .standard) {kind : String} {shown : Shown}
    {html : List Html} (drawn : r.item f field o kind shown = .ok html) :
    offeredAll html = offeredAll shown.html := by
  have label : offeredAll (Template.itemLabel shown.descriptor.id shown.descriptor.required
      shown.descriptor.label) = [] := by
    unfold Template.itemLabel
    split
    · rfl
    · split <;> rfl
  have body : offeredAll (Template.itemBody (f.scope.elementId field) o.ajax shown.html) =
      offeredAll shown.html := by
    unfold Template.itemBody
    split <;> simp [offeredAll_element, lineFeed]
  unfold Renderer.item at drawn
  rw [standard, Template.item_fill] at drawn
  cases drawn
  rw [offeredAll_element (by decide), offeredAll_append, body, offeredAll_nil, List.append_nil]
  exact congrArg (· ++ offeredAll shown.html) label

/-- Two frames of one place describe a field alike, but for its value and how it is marked. -/
theorem describe_place (errors : c.errors = c'.errors) (place : SamePlace f f') (key : String) :
    Alike (fun desc desc' => desc.id = desc'.id ∧ desc.name = desc'.name ∧
        desc.errors = desc'.errors)
      (r.describe c f field key o) (r.describe c' f' field key o) := by
  unfold describe
  have same : r.errorsOf c' f' field = r.errorsOf c f field := by
    simp only [errorsOf, errors, place.model, place.bindErrors]
  rw [same]
  refine .bind_same fun known _ => .ok ⟨?_, ?_, rfl⟩
  · rw [place.scope]
  · rw [place.scope]

/-- The control of a has-many association, chosen from items and with what it shows submitted. -/
theorem manyControl_again (standard : r.drawing.theme = .standard) (errors : c.errors = c'.errors)
    (place : SamePlace f f') {items : List Value} {shown : Shown}
    (drawn : r.manyControl c f field o items = .ok shown)
    (proper : ∀ offer ∈ offeredAll shown.html, offer.value ≠ "" ∧ offer.value ≠ "false")
    (submitted : f'.submitted? (idsKey field) =
      some (selection (o.style.getD .select) (chosenIn shown.html))) :
    ∃ shown', r.manyControl c' f' field o items = .ok shown' ∧ shown'.html = shown.html := by
  obtain ⟨desc, described, drawn⟩ := bind_eq_ok.mp drawn
  obtain ⟨chosen, -, drawn⟩ := bind_eq_ok.mp drawn
  obtain ⟨hs, many, drawn⟩ := bind_eq_ok.mp drawn
  cases drawn
  obtain ⟨desc', described', id, name, same⟩ :=
    (describe_place errors place (idsKey field)).exists_of_ok described
  have again := Drawing.many_again { desc with name := desc.name ++ "[]" }
    { desc' with name := desc'.name ++ "[]" } standard id (congrArg (· ++ "[]") name) same many
    proper
  refine ⟨⟨{ desc' with name := desc'.name ++ "[]" }, hs⟩, ?_, rfl⟩
  have ids : r.selectedIds f' field =
      .ok (chosenIds (selection (o.style.getD .select) (chosenIn hs))) := by
    rw [selectedIds, submitted]
  rw [manyControl, described', ids]
  simp only [ok_bind, again, pure_eq]

/-- An input of a has-many association is its control in an item. -/
theorem input_many (picks : r.picksMany f.model field o = true) :
    r.input c f field o = do
      let _ ← r.schema.fieldType f.model field
      let (items, calls) ← r.itemsOf o.collection c f.record
      let shown ← r.manyControl c f field o items
      let html ← r.item f field o ControlKind.select.name shown
      return ⟨html, r.listenersOf c field o shown.descriptor.id, calls⟩ := by
  rw [picksMany, Bool.and_eq_true] at picks
  obtain ⟨given, many⟩ := picks
  obtain ⟨assoc, found, isAssoc⟩ : ∃ assoc, r.schema.association? f.model field = .ok assoc ∧
      isMany assoc = true := by
    cases found : r.schema.association? f.model field with
    | error e => simp [assoc?, found, isMany, Except.toOption] at many
    | ok assoc => exact ⟨assoc, rfl, assoc?_of_ok found ▸ many⟩
  unfold Renderer.input Renderer.control Renderer.association
  simp only [if_pos given, found, ok_bind, if_pos isAssoc, bind_assoc, pure_eq]
  rfl

/-- **One input again.** A choice that was submitted as it is shown is shown as it is. -/
theorem input_again (standard : r.drawing.theme = .standard) (errors : c.errors = c'.errors)
    (place : SamePlace f f') (items : r.itemsOf o.collection c' f'.record =
      r.itemsOf o.collection c f.record) (picks : r.picksMany f.model field o = true) {out : Output}
    (drawn : r.input c f field o = .ok out)
    (proper : ∀ offer ∈ offeredAll out.html, offer.value ≠ "" ∧ offer.value ≠ "false")
    (submitted : f'.submitted? (idsKey field) =
      some (selection (o.style.getD .select) (chosenIn out.html))) :
    ∃ out', r.input c' f' field o = .ok out' ∧ offeredAll out'.html = offeredAll out.html := by
  rw [input_many picks] at drawn
  obtain ⟨type, typed, drawn⟩ := bind_eq_ok.mp drawn
  obtain ⟨⟨listed, calls⟩, read, drawn⟩ := bind_eq_ok.mp drawn
  obtain ⟨shown, control, drawn⟩ := bind_eq_ok.mp drawn
  obtain ⟨html, item, drawn⟩ := bind_eq_ok.mp drawn
  cases drawn
  have same : offeredAll html = offeredAll shown.html := item_offered standard item
  rw [chosenIn, same] at submitted
  obtain ⟨shown', control', unchanged⟩ := manyControl_again standard errors place control
    (fun offer mem => proper offer (same ▸ mem)) submitted
  obtain ⟨around, -, item'⟩ :=
    item_drawn standard f' field o ControlKind.select.name shown'.descriptor
  refine ⟨⟨around shown'.html, r.listenersOf c' field o shown'.descriptor.id, calls⟩, ?_, ?_⟩
  · rw [input_many (place.model ▸ picks), ← place.model, typed, items, read]
    simp only [ok_bind, control', item', pure_eq]
  · rw [item_offered standard (item' shown'.html), same, unchanged]

/-- **A selection is kept.** What a choice of any number of members shows as chosen is submitted
under its name, in whatever style, and it is shown as chosen when the form is rendered again: exactly
the same options are marked. This holds in rows of related records too, whatever was submitted
before and whatever else is submitted now, if there is the same to choose from and no option stands
for nothing. -/
theorem selection_kept (r : Renderer) (standard : r.drawing.theme = .standard) (c c' : Context)
    (record : c.record = c'.record) (model : c.modelName = c'.modelName)
    (errors : c.errors = c'.errors) (way : Way) (f : Frame)
    (reached : r.frame? (.ofContext c) way = some f) (field : String) (o : FieldOptions)
    (picks : r.picksMany f.model field o = true) (out : Output)
    (drawn : r.input c f field o = .ok out)
    (proper : ∀ offer ∈ offeredAll out.html, offer.value ≠ "" ∧ offer.value ≠ "false") (v : Value)
    (selected : v = selection (o.style.getD .select) (chosenIn out.html)) :
    ∃ f', r.frame? (.ofContext c') way = some f' ∧ f'.scope = f.scope ∧ f'.record = f.record ∧
      (f'.submitted? (idsKey field) = some v →
        r.itemsOf o.collection c' f'.record = r.itemsOf o.collection c f.record →
        ∃ out', r.input c' f' field o = .ok out' ∧ offeredAll out'.html = offeredAll out.html) ∧
      (isBracketless c.modelName = true → isBracketless field = true →
        (∀ relation ∈ way.relations, isBracketless relation = true) →
        c'.params = decode (f.scope.elementName (idsKey field)) v →
        f'.submitted? (idsKey field) = some v) := by
  have place : SamePlace (.ofContext c) (.ofContext c') := by
    refine ⟨model, ?_, rfl⟩
    rw [Frame.ofContext, Frame.ofContext, model]
  obtain ⟨f', reached', here, same⟩ := frame?_same reached place record
  refine ⟨f', reached', here.scope.symm, same.symm, ?_, ?_⟩
  · intro submitted items
    rw [selected] at submitted
    exact input_again standard errors here items picks drawn proper submitted
  · intro root key path params
    refine frame?_submitted reached' ?_
    rw [frame?_scope reached] at params
    have decoded : c'.params = [(c'.modelName, .table (way.submission (idsKey field) v))] := by
      rw [params, ← model]
      exact decode_elementName v root (isBracketless_idsKey key) path
    simp only [Frame.ofContext, Context.modelParams, decoded, List.lookup_cons, beq_self_eq_true]

/-- Projects with tasks, which have tags. -/
def taskBoard : Renderer where
  schema := ⟨[
    ⟨"project", [], [⟨"tasks", .many, "tasks", "task", none⟩], "id"⟩,
    ⟨"task", [], [⟨"tags", .many, "tags", "tag", none⟩], "id"⟩,
    ⟨"tag", [], [], "id"⟩], "id"⟩
  drawing := ⟨.standard, .standard⟩

/-- A project with two tasks, of which the second one has the tags 3 and 1. -/
def taggedTask : Context where
  record := .table [(.text "tasks", .list [.table [],
    .table [(.text "tags", .list [.table [(.text "id", .int 3)], .table [(.text "id", .int 1)]])]])]
  modelName := "project"
  params := []
  errors := none
  required := []
  today := .first
  mode := .new
  csrfToken := none

/-- Check boxes for four tags. -/
def tagBoxes : FieldOptions :=
  { FieldOptions.standard with
    style := some .checkBoxes
    collection := some (.literal [.int 1, .tuple [.int 2, .text "urgent"], .int 3, .text "late"]) }

/-- The frame of the second task. -/
def secondTask : Frame where
  model := "task"
  record := .table [(.text "tags", .list [.table [(.text "id", .int 3)],
    .table [(.text "id", .int 1)]])]
  scope := ⟨"project_tasks_attributes_1", "project[tasks_attributes][1]"⟩
  values := none
  bindErrors := false

theorem selection_kept_secondTask :
    let submitted : Value := .table [(.text "1", .text "1"), (.text "3", .text "3")]
    let c' := { taggedTask with
      params := decode "project[tasks_attributes][1][tag_ids]" submitted }
    ∃ f' out', taskBoard.frame? (.ofContext c') [("tasks", 1)] = some f' ∧
      f'.submitted? "tag_ids" = some submitted ∧
      taskBoard.input c' f' "tags" tagBoxes = .ok out' ∧
      offeredAll out'.html = [⟨"1", true⟩, ⟨"2", false⟩, ⟨"3", true⟩, ⟨"late", false⟩] := by
  intro submitted c'
  obtain ⟨out, drawn⟩ : ∃ out, taskBoard.input taggedTask secondTask "tags" tagBoxes = .ok out :=
    exists_of_isOk (by decide +kernel)
  have offered : offeredAll out.html =
      [⟨"1", true⟩, ⟨"2", false⟩, ⟨"3", true⟩, ⟨"late", false⟩] := by
    have shown : (taskBoard.input taggedTask secondTask "tags" tagBoxes).toOption.map
        (fun out => offeredAll out.html) =
          some [⟨"1", true⟩, ⟨"2", false⟩, ⟨"3", true⟩, ⟨"late", false⟩] := by
      decide +kernel
    rw [drawn] at shown
    exact Option.some.inj shown
  have key : idsKey "tags" = "tag_ids" := by decide +kernel
  have name : secondTask.scope.elementName "tag_ids" =
      "project[tasks_attributes][1][tag_ids]" := by decide
  obtain ⟨f', reached, -, -, again, decoded⟩ := selection_kept taskBoard rfl taggedTask c' rfl rfl
    rfl [("tasks", 1)] secondTask rfl "tags" tagBoxes (by decide +kernel) out drawn
    (by rw [offered]; decide) submitted (by rw [chosenIn, offered]; rfl)
  have read := decoded (by decide) (by decide) (by decide) (by rw [key, name])
  obtain ⟨out', drawn', same⟩ := again read rfl
  exact ⟨f', out', reached, key ▸ read, drawn', same.trans offered⟩

end Render.Renderer

end Formwright
