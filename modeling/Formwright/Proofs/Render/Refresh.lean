import Formwright.Proofs.Render.Listeners
import Formwright.Proofs.Text.ScriptLiteral

/-!
# Refreshing a control

A control that can be refreshed stands in a box of its own in its item. Drawn again from the items
it was drawn from, for the same context, it is what the box holds already: a refresh of an unchanged
page changes nothing. The id of the box is the one that the script of the refresh selects.

- `updateBox`, `IsBoxed`: the box, and the item around it.
- `Renderer.input_boxed`: an input beside its refresh.
- `Renderer.refresh_unchanged`: a refresh of an unchanged page.
-/

namespace Formwright.Render

open Form Html Outcome Template

/-- The box of a control that is refreshed on its own. -/
def updateBox (model field : String) (body : List Html) : Html :=
  .element "div" [⟨.text "id", [.text (model ++ "_" ++ field), .text "-update"]⟩]
    (lineFeed :: body ++ [lineFeed])

/-- The item has a label, if it has one, and the box of a control. -/
def IsBoxed (model field : String) (body : List Html) (item : Html) : Prop :=
  ∃ attrs control required label, item = .element "li" attrs
    (lineFeed :: Template.itemLabel control required label ++
      [updateBox model field body, lineFeed])

/-- The item has a label, if it has one, and a control, which is in a box if it can be refreshed. -/
def IsItem (base : String) (ajax : Bool) (body : List Html) (item : Html) : Prop :=
  ∃ attrs control required label, item = .element "li" attrs
    (lineFeed :: Template.itemLabel control required label ++ Template.itemBody base ajax body)

theorem updateBox_id {model field : String} (quietModel : IsQuiet model)
    (quietField : IsQuiet field) (body : List Html) :
    (updateBox model field body).write = "<div id=\"" ++ boxId model field ++ "\">\n" ++
      writeAll body ++ "\n</div>" := by
  have own : IsQuiet (model ++ "_" ++ field) :=
    (quietModel.append (by decide)).append quietField
  have suffix : escape "-update" = "-update" := IsQuiet.escape (by decide)
  have name : escape "id" = "id" := IsQuiet.escape (by decide)
  have feed : escape "\n" = "\n" := by decide
  simp only [updateBox, write, writeAttrs, Attr.write, writePieces, Piece.write, writeAll,
    writeAll_append, List.cons_append, lineFeed, own.escape, suffix, name, feed]
  simp [← String.toList_inj, boxId]

/-- A collection gives these items for a record: they are listed, or computed for it. -/
def Offers (r : Renderer) (c : Context) (record : Value) (collection : Collection)
    (items : List Value) : Prop :=
  ∃ calls, r.itemsOf (some collection) c record = .ok (items, calls)

/-- Listed items are what they are. -/
theorem offers_literal (r : Renderer) (c : Context) (record : Value) (items : List Value) :
    Offers r c record (.literal items) items := ⟨[], rfl⟩

/-- The options of a control that chooses from a collection. -/
def choosing (o : FieldOptions) (collection : Collection) : FieldOptions :=
  { o with collection := some collection }

namespace Renderer

variable {r : Renderer} {c : Context} {f : Frame} {field : String} {o : FieldOptions}
  {collection : Collection} {items : List Value}

/-- The control that is drawn from items. -/
def controlFrom (r : Renderer) (c : Context) (f : Frame) (field : String) (o : FieldOptions)
    (items : List Value) : Except Fault Shown := do
  let assoc ← r.schema.association? f.model field
  if isMany assoc then r.manyControl c f field o items
  else r.singleControl c f field o items (Schema.keyOf assoc field)

theorem association_from {calls : List Invocation}
    (offered : r.itemsOf o.collection c f.record = .ok (items, calls)) :
    r.association c f field o =
      r.controlFrom c f field o items >>= fun shown => .ok (shown, calls) := by
  simp only [association, controlFrom, offered, ok_bind]
  cases r.schema.association? f.model field with
  | error e => rfl
  | ok assoc =>
    simp only [ok_bind]
    split
    · rfl
    · rfl

/-- A refreshed control is drawn from its items; where they came from before makes no difference. -/
theorem refreshIn_from :
    r.refreshIn c f field items o =
      r.controlFrom c f field o items >>= fun shown => .ok shown.html := by
  have listed : r.itemsOf (choosing o (.literal items)).collection c f.record =
      .ok (items, []) := rfl
  rw [refreshIn, ← choosing, association_from listed]
  show (r.controlFrom c f field o items >>= _) >>= _ = _
  cases r.controlFrom c f field o items with
  | error e => rfl
  | ok shown => rfl

/-- **An input beside its refresh.** Both fail for the same reason, or the input is an item around
the refreshed control. -/
theorem input_refreshed (standard : r.drawing.theme = .standard) {type : String}
    (typed : r.schema.fieldType f.model field = .ok type)
    (offers : Offers r c f.record collection items) :
    Alike (fun out body => ∃ item, out.html = [item] ∧
        IsItem (f.scope.elementId field) o.ajax body item)
      (r.input c f field (choosing o collection)) (r.refreshIn c f field items o) := by
  obtain ⟨calls, offered⟩ := offers
  have drawn : r.control c f field (choosing o collection) (.ofDeclared type) =
      r.controlFrom c f field o items >>= fun shown => .ok (shown, "select", calls) := by
    rw [control, if_pos (by rfl), association_from offered]
    show (r.controlFrom c f field o items >>= _) >>= _ = _
    cases r.controlFrom c f field o items with
    | error e => rfl
    | ok shown => rfl
  simp only [input, typed, ok_bind, drawn, refreshIn_from]
  cases r.controlFrom c f field o items with
  | error e => exact .error e
  | ok shown =>
    simp only [ok_bind, item, standard, Template.item_fill]
    exact .ok ⟨_, rfl, _, _, _, _, rfl⟩

/-- A control that can be refreshed is in the box of its field. -/
theorem input_boxed (standard : r.drawing.theme = .standard) (ajax : o.ajax = true) {type : String}
    (typed : r.schema.fieldType c.modelName field = .ok type)
    (offers : Offers r c c.record collection items) :
    Alike (fun out body => ∃ item, out.html = [item] ∧ IsBoxed c.modelName field body item)
      (r.input c (.ofContext c) field (choosing o collection))
      (r.refresh c field items none o) := by
  have beside := input_refreshed (f := .ofContext c) (o := o) standard typed offers
  refine beside.mono fun out body ⟨item, html, attrs, control, required, label, isItem⟩ => ?_
  rw [Template.itemBody, if_pos ajax] at isItem
  exact ⟨item, html, attrs, control, required, label, isItem⟩

/-! ## The whole form -/

mutual

/-- An input outside rows is visited from the frame of the form. -/
theorem visit_of_walk {o : FieldOptions} :
    ∀ n : Form.Node, Form.Node.input field o ∈ n.walk → ⟨f, field, o⟩ ∈ r.visits f n
  | .input field' o', mem => by
    obtain ⟨rfl, rfl⟩ : field = field' ∧ o = o' := by simpa [Node.walk] using mem
    exact List.mem_cons_self
  | .fieldset label body o', mem => by
    rw [Node.walk, List.mem_cons] at mem
    rcases mem with same | mem
    · cases same
    · exact visit_of_walkAll body mem
  | .actions body, mem => by
    rw [Node.walk, List.mem_cons] at mem
    rcases mem with same | mem
    · cases same
    · exact visit_of_walkAll body mem
  | .hasMany field' rows o', mem => by simp [Node.walk] at mem
  | .content content isMarkup, mem => by simp [Node.walk] at mem
  | .script script, mem => by simp [Node.walk] at mem

theorem visit_of_walkAll {o : FieldOptions} :
    ∀ ns : List Form.Node, Form.Node.input field o ∈ walkAll ns →
      ⟨f, field, o⟩ ∈ r.visitsAll f ns
  | [], mem => by cases mem
  | n :: rest, mem => by
    rw [walkAll, List.mem_append] at mem
    rw [visitsAll, List.mem_append]
    rcases mem with mem | mem
    · exact .inl (visit_of_walk n mem)
    · exact .inr (visit_of_walkAll rest mem)

end

theorem elements_sublist {item : Html} {items : List Html} (mem : item ∈ items) :
    (elementsAll [item]).Sublist (elementsAll items) := by
  obtain ⟨before, after, rfl⟩ := List.append_of_mem mem
  rw [elementsAll_append, elementsAll_cons, elementsAll_cons, elementsAll_nil, List.append_nil]
  exact (List.sublist_append_left _ _).trans (List.sublist_append_right _ _)

/-- An input outside rows is drawn as one item, which is found in the form. -/
theorem item_in_form (standard : r.drawing.theme = .standard) {tree : Tree} {o : FieldOptions}
    {out : Rendered} (h : r.form tree c = .ok out) (mem : .input field o ∈ tree.walk) :
    ∃ item, Visit.DrawnAs r c ⟨.ofContext c, field, o⟩ item ∧
      (elementsAll [item]).Sublist (elementsAll out.html) := by
  obtain ⟨parts, drawn, h⟩ := bind_eq_ok.mp h
  obtain ⟨html, filled, h⟩ := bind_eq_ok.mp h
  cases h
  -- every visit of the body has its item there, in order, and this input is one of the visits
  obtain ⟨items, drawnItems, kept⟩ := (nodes_shows tree.nodes drawn).items standard
  obtain ⟨i, bound, at_i⟩ := List.getElem_of_mem (visit_of_walkAll (r := r) tree.nodes mem)
  have bound' : i < items.length := drawnItems.length_eq ▸ bound
  have drawnAs := drawnItems.get bound bound'
  rw [standard] at filled
  have shown := Theme.standard_sublist "form/form.html" "body" BuiltIn.form
    (by simp [Template.builtIn]) (by decide) rfl filled
  refine ⟨items[i], ?_, (elements_sublist (List.getElem_mem bound')).trans (kept.trans shown)⟩
  exact at_i ▸ drawnAs

/-- **A refresh of an unchanged page.** A control drawn again from the items it was drawn from, for
the same context, is what its box holds, wherever the input stands outside rows; and where the names
of the model and the field need no escape, the script of the refresh is one call that selects the
box by its id and passes on the markup with all line breaks as line feeds. -/
theorem refresh_unchanged (r : Renderer) (standard : r.drawing.theme = .standard) (c : Context)
    (field : String) (known : (r.schema.fieldType c.modelName field).isOk = true)
    (o : FieldOptions) (ajax : o.ajax = true) (collection : Collection)
    (items : List Value) (offers : Offers r c c.record collection items) :
    Alike (fun out body => ∃ item, out.html = [item] ∧ IsBoxed c.modelName field body item)
        (r.input c (.ofContext c) field (choosing o collection)) (r.refresh c field items none o) ∧
      (∀ tree out, r.form tree c = .ok out → .input field (choosing o collection) ∈ tree.walk →
        ∃ body item, r.refresh c field items none o = .ok body ∧
          IsBoxed c.modelName field body item ∧
          Visit.DrawnAs r c ⟨.ofContext c, field, choosing o collection⟩ item ∧
          (elementsAll [item]).Sublist (elementsAll out.html)) ∧
      (IsQuiet c.modelName → IsQuiet field → ∀ body : List Html,
        (updateBox c.modelName field body).write =
            "<div id=\"" ++ boxId c.modelName field ++ "\">\n" ++ writeAll body ++ "\n</div>" ∧
          ∀ markup, readUpdate? (updateScript c.modelName field markup) =
            some ⟨"#" ++ boxId c.modelName field,
              String.ofList (Segment.unixLines markup.toList)⟩) := by
  obtain ⟨type, typed⟩ := exists_of_isOk known
  have beside := input_boxed standard ajax typed offers
  refine ⟨beside, fun tree out drawn mem => ?_, fun quietModel quietField body =>
    ⟨updateBox_id quietModel quietField body, read_updateScript quietModel quietField⟩⟩
  obtain ⟨item, drawnAs, kept⟩ := item_in_form standard drawn mem
  obtain ⟨part, inputDrawn, html⟩ := drawnAs
  obtain ⟨body, refreshed, item', html', boxed⟩ := beside.exists_of_ok inputDrawn
  obtain rfl : item = item' := List.singleton_injective (html.symm.trans html')
  exact ⟨body, item, refreshed, boxed, ⟨part, inputDrawn, html⟩, kept⟩

/-- The options of a control that can be refreshed. -/
def refreshed : FieldOptions := { FieldOptions.standard with ajax := true }

/-- Two names. -/
def twoNames : List Value := [.text "Ann", .text "Bo"]

/-- An address book with a function that gives two names. -/
def namingBook : Renderer := { addressBook with functions := fun _ => .constant (.list twoNames) }

/-- The name of a contact is chosen from two, which a function gives. -/
def namedForm : Tree := ⟨"contact", [
  .actions [.input "name" (choosing refreshed (.computed (.function "names")))]]⟩

theorem refresh_unchanged_namedForm :
    ∃ out body item, namingBook.form namedForm phonesApart = .ok out ∧
      namingBook.refresh phonesApart "name" twoNames none refreshed = .ok body ∧
      IsBoxed "contact" "name" body item ∧ (elementsAll [item]).Sublist (elementsAll out.html) ∧
      readUpdate? (updateScript "contact" "name" "<b>\r</b>") =
        some ⟨"#contact_name-update", "<b>\n</b>"⟩ := by
  obtain ⟨out, drawn⟩ : ∃ out, namingBook.form namedForm phonesApart = .ok out :=
    exists_of_isOk (by decide +kernel)
  obtain ⟨-, inForm, script⟩ := refresh_unchanged namingBook rfl phonesApart "name" (by decide)
    refreshed rfl (.computed (.function "names")) twoNames ⟨_, rfl⟩
  obtain ⟨body, item, again, boxed, -, kept⟩ :=
    inForm namedForm out drawn (.tail _ List.mem_cons_self)
  refine ⟨out, body, item, drawn, again, boxed, kept, ?_⟩
  exact (script (by decide) (by decide) body).2 "<b>\r</b>"

end Renderer

end Formwright.Render
