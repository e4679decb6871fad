import Formwright.Proofs.Render.Field
import Formwright.Proofs.Render.Rows

/-!
# Calls of a form

Rendering calls what the form's author brought: computed collections and the builders of rows. Both
may ask a database, so it matters how often they are called, for which record and in which order.
The calls of a form are those of a plain traversal of its tree, which knows the record and nothing
of themes, names, errors or submitted values: an input with a computed collection makes one call for
the record of its row, and a relation calls its builder once for every related record, each time
right before the calls of that row, and at last for the template, which has no record.

- `callsOf`, `callsOfAll`: the calls of the traversal.
- `Renderer.node_calls`, `Renderer.nodes_calls`: the calls of what is drawn.
- `Renderer.form_calls`: the calls of a form.
-/

namespace Formwright.Render

open Form Outcome

/-! ## The traversal -/

/-- The calls of an input for a record: one if its collection is computed. -/
def collectionCalls (model : String) (record : Value) : Option Collection → List Invocation
  | some (.computed source) => [.resolve source model record]
  | _ => []

/-- The related records of a record, in their order. -/
def relatedRecords (record : Value) (field : String) : List Value :=
  (record.field field).membersOrNone.toOption.getD []

mutual

/-- The calls of a node in a form for a model, where the node is rendered for a record. The options
of groups and relations are never called, whatever they hold. -/
def callsOf (model : String) (record : Value) : Node → List Invocation
  | .input _ o => collectionCalls model record o.collection
  | .fieldset _ body _ => callsOfAll model record body
  | .hasMany field rows _ =>
    ((relatedRecords record field).flatMap fun child =>
      .build field child :: callsOfForm model child (rows child)) ++
        .build field .none :: callsOfForm model .none (rows .none)
  | .actions body => callsOfAll model record body
  | .content _ _ => []
  | .script _ => []

/-- The calls of nodes in a row. -/
def callsOfAll (model : String) (record : Value) : List Node → List Invocation
  | [] => []
  | n :: rest => callsOf model record n ++ callsOfAll model record rest

/-- The calls of the nodes of a row. -/
def callsOfForm (model : String) (record : Value) : RowForm → List Invocation
  | .nodes body => callsOfAll model record body
  | .fault _ => []

end

namespace Renderer

variable {r : Renderer} {c : Context} {f : Frame} {field : String}

/-! ## Parts of a form -/

/-- A function that gave something was called with the model and the record. -/
theorem call_logged {source : Source} {record : Value} {given : Value × Invocation}
    (h : r.call source c record = .ok given) : given.2 = .resolve source c.modelName record := by
  obtain ⟨given, -, rfl⟩ := exceptMap_eq_ok.mp h
  rfl

theorem itemsOf_calls {collection : Option Collection} {record : Value}
    {items : List Value × List Invocation} (h : r.itemsOf collection c record = .ok items) :
    items.2 = collectionCalls c.modelName record collection := by
  unfold itemsOf at h
  split at h
  · cases h
    rfl
  · cases h
    rfl
  · obtain ⟨⟨given, call⟩, called, h⟩ := bind_eq_ok.mp h
    obtain ⟨members, -, h⟩ := bind_eq_ok.mp h
    cases h
    exact congrArg (fun logged => [logged]) (call_logged called)

theorem association_calls {o : FieldOptions} {shown : Shown × List Invocation}
    (h : r.association c f field o = .ok shown) :
    shown.2 = collectionCalls c.modelName f.record o.collection := by
  obtain ⟨⟨items, calls⟩, listed, h⟩ := bind_eq_ok.mp h
  obtain ⟨assoc, -, h⟩ := bind_eq_ok.mp h
  have made : calls = collectionCalls c.modelName f.record o.collection := itemsOf_calls listed
  split at h
  · obtain ⟨control, -, h⟩ := bind_eq_ok.mp h
    cases h
    exact made
  · obtain ⟨control, -, h⟩ := bind_eq_ok.mp h
    cases h
    exact made

/-- An input calls its collection once, if that is computed, and nothing else. -/
theorem input_calls {o : FieldOptions} {out : Output} (h : r.input c f field o = .ok out) :
    out.calls = collectionCalls c.modelName f.record o.collection := by
  obtain ⟨type, -, h⟩ := bind_eq_ok.mp h
  obtain ⟨⟨shown, kind, calls⟩, drawn, h⟩ := bind_eq_ok.mp h
  obtain ⟨html, -, h⟩ := bind_eq_ok.mp h
  cases h
  show calls = _
  unfold control at drawn
  split at drawn
  · obtain ⟨chosen, associated, drawn⟩ := bind_eq_ok.mp drawn
    cases drawn
    exact association_calls associated
  · rename_i absent
    -- without a collection the control is a scalar, and there is nothing to call
    have none : o.collection = none := by simpa using absent
    obtain ⟨scalar, -, drawn⟩ := bind_eq_ok.mp drawn
    cases drawn
    rw [none]
    rfl

theorem fieldset_calls {label : String} {o : FieldOptions} {body out : Output}
    (h : r.fieldset c label o body = .ok out) : out.calls = body.calls := by
  obtain ⟨html, -, h⟩ := bind_eq_ok.mp h
  cases h
  rfl

theorem actions_calls {body out : Output} (h : r.actions body = .ok out) :
    out.calls = body.calls := by
  obtain ⟨html, -, h⟩ := bind_eq_ok.mp h
  cases h
  rfl

/-- The builder of a row is called before the row. -/
theorem row_calls {row : Frame} {body out : Output} (h : r.row row field body = .ok out) :
    out.calls = .build field row.record :: body.calls := by
  obtain ⟨html, -, h⟩ := bind_eq_ok.mp h
  cases h
  cases row.record.isNone <;> rfl

theorem templateRow_calls {row : Frame} {body out : Output}
    (h : r.templateRow row field body = .ok out) :
    out.calls = .build field .none :: body.calls := by
  obtain ⟨html, -, h⟩ := bind_eq_ok.mp h
  cases h
  rfl

theorem hasMany_calls {drawn : List Output} {template out : Output}
    (h : r.hasMany f field drawn template = .ok out) :
    out.calls = Output.allCalls drawn ++ template.calls := by
  obtain ⟨html, -, h⟩ := bind_eq_ok.mp h
  cases h
  rfl

/-- Rows make the calls of their records one after the other, whatever their numbers. -/
theorem drawRows_calls {draw : Nat → Value → Except Fault Output} {calls : Value → List Invocation}
    (each : ∀ (i : Nat) (record : Value) (part : Output), draw i record = .ok part →
      part.calls = calls record)
    {records : List Value} {index : Nat} {drawn : List Output}
    (h : drawRows draw index records = .ok drawn) :
    Output.allCalls drawn = records.flatMap calls := by
  induction records generalizing index drawn with
  | nil =>
    cases h
    rfl
  | cons record rest ih =>
    obtain ⟨part, drawnPart, h⟩ := bind_eq_ok.mp h
    obtain ⟨others, drawnRest, h⟩ := bind_eq_ok.mp h
    cases h
    show part.calls ++ Output.allCalls others = calls record ++ rest.flatMap calls
    rw [each index record part drawnPart, ih drawnRest]

/-! ## Walking the form -/

mutual

/-- A node makes the calls of the traversal. -/
theorem node_calls : ∀ (n : Form.Node) {f : Frame} {out : Output},
    r.node (r.input c) c f n = .ok out → out.calls = callsOf c.modelName f.record n
  | .input field o, f, out, h => by
    simp only [node] at h
    exact input_calls h
  | .fieldset label body o, f, out, h => by
    simp only [node] at h
    obtain ⟨parts, drawn, h⟩ := bind_eq_ok.mp h
    exact (fieldset_calls h).trans (nodes_calls body drawn)
  | .actions body, f, out, h => by
    simp only [node] at h
    obtain ⟨parts, drawn, h⟩ := bind_eq_ok.mp h
    exact (actions_calls h).trans (nodes_calls body drawn)
  | .hasMany field rows o, f, out, h => by
    obtain ⟨rel, drawn, blank, template, found, rowsDrawn, blankDrawn, templateDrawn, h⟩ :=
      node_hasMany_inv h
    -- the traversal visits the same records as the rows, so the induction applies row by row
    have records : relatedRecords f.record field = rel.records := by
      rw [relatedRecords, (relation_inv found).2.1]
      rfl
    have eachRow : Output.allCalls drawn = rel.records.flatMap fun child =>
        .build field child :: callsOfForm c.modelName child (rows child) := by
      refine drawRows_calls (fun i record part drawnPart => ?_) rowsDrawn
      obtain ⟨body, bodyDrawn, rowDrawn⟩ := bind_eq_ok.mp drawnPart
      rw [row_calls rowDrawn, rowForm_calls (rows record) bodyDrawn]
      rfl
    rw [hasMany_calls h, eachRow, templateRow_calls templateDrawn,
      rowForm_calls (rows .none) blankDrawn, callsOf, records]
    rfl
  | .content content isMarkup, f, out, h => by
    simp only [node] at h
    cases h
    rfl
  | .script script, f, out, h => by
    simp only [node] at h
    obtain ⟨html, -, rfl⟩ := exceptMap_eq_ok.mp h
    rfl

theorem nodes_calls : ∀ (ns : List Form.Node) {f : Frame} {parts : List Output},
    r.nodes (r.input c) c f ns = .ok parts →
    (Output.lines parts).calls = callsOfAll c.modelName f.record ns
  | [], f, parts, h => by
    simp only [nodes] at h
    cases h
    rfl
  | n :: rest, f, parts, h => by
    obtain ⟨first, others, drawn, drawnRest, rfl⟩ := nodes_cons_inv h
    show first.calls ++ (Output.lines others).calls = _
    rw [node_calls n drawn, nodes_calls rest drawnRest, callsOfAll]

theorem rowForm_calls : ∀ (form : RowForm) {f : Frame} {out : Output},
    r.rowForm (r.input c) c f form = .ok out →
    out.calls = callsOfForm c.modelName f.record form
  | .nodes body, f, out, h => by
    simp only [rowForm] at h
    obtain ⟨parts, drawn, h⟩ := bind_eq_ok.mp h
    cases h
    exact nodes_calls body drawn
  | .fault fault, f, out, h => by
    simp only [rowForm] at h
    cases h

end

/-- **The calls of a form.** They are those of the traversal of its tree for the record of its
context, under every theme and whatever was submitted. -/
theorem form_calls (r : Renderer) (tree : Tree) (c : Context) (out : Rendered)
    (h : r.form tree c = .ok out) :
    out.invocations = callsOfAll c.modelName c.record tree.nodes := by
  obtain ⟨parts, drawn, h⟩ := bind_eq_ok.mp h
  obtain ⟨html, -, h⟩ := bind_eq_ok.mp h
  cases h
  exact nodes_calls tree.nodes drawn

/-- An address book with a function that gives what the parameters offer. -/
def offeringBook : Renderer :=
  { addressBook with functions := fun _ => .parameter "numbers" }

/-- The options of a number that is chosen from what a function offers. -/
def offeredNumbers : FieldOptions :=
  { FieldOptions.standard with collection := some (.computed (.function "offered")) }

/-- The numbers of a contact's phones are chosen, except for one that is given. The options of the
group and of the relation have collections as well. -/
def chosenNumbers : Tree := ⟨"contact", [
  .fieldset "" [
    .hasMany "phones" (fun phone => .nodes [.input "number"
      (if (phone.field "number").isText "2" then .standard else offeredNumbers)])
      offeredNumbers] offeredNumbers,
  .input "name" offeredNumbers]⟩

theorem form_calls_chosenNumbers :
    ∃ out, offeringBook.form chosenNumbers twoPhones = .ok out ∧
      ∃ first second, relatedRecords twoPhones.record "phones" = [first, second] ∧
        out.invocations = [
          .build "phones" first, .resolve (.function "offered") "contact" first,
          .build "phones" second,
          .build "phones" .none, .resolve (.function "offered") "contact" .none,
          .resolve (.function "offered") "contact" twoPhones.record] := by
  obtain ⟨out, drawn⟩ : ∃ out, offeringBook.form chosenNumbers twoPhones = .ok out :=
    exists_of_isOk (by decide +kernel)
  refine ⟨out, drawn, _, _, rfl, ?_⟩
  rw [form_calls offeringBook chosenNumbers twoPhones out drawn]
  with_unfolding_all rfl

end Renderer

end Formwright.Render
