import Formwright.Proofs.Markup.Elements
import Formwright.Proofs.Render.Field
import Formwright.Proofs.Render.Walk
import Mathlib.Data.List.DropRight

/-!
# Listeners of a form

Rendering visits the inputs of a form: those outside relations, and those in the rows of the related
records that are there, in the order of the records. The template of a row is drawn as well, but its
inputs are not visited, and neither are those of a record that is nothing. The script of a form has
one listener for every visited input whose behaviour does something, in the order of the visits, which
is the order of the inputs in the document.

- `Visit`, `Renderer.visits`: the visited inputs of a tree.
- `Visit.reloadText`, `Visit.script?`: what happens when a visited input changes.
- `Shows`: listeners and elements of some visits; `node_shows`, `nodes_shows`.
- `form_script`: the script of a form.
-/

namespace Formwright.Render

open Form Html Outcome Template Words

/-! ## Visited inputs -/

/-- An input with the frame it is drawn in. -/
structure Visit where
  frame : Frame
  field : String
  options : FieldOptions

namespace Renderer

mutual

/-- The visited inputs of a node. -/
def visits (r : Renderer) (f : Frame) : Form.Node → List Visit
  | .input field o => [⟨f, field, o⟩]
  | .fieldset _ body _ => visitsAll r f body
  | .hasMany field rows _ =>
    match r.relation f field with
    | .ok rel => rel.records.zipIdx.flatMap fun e =>
        if e.1.isNone then [] else formVisits r (rowFrame rel f field e.2 e.1) (rows e.1)
    | .error _ => []
  | .actions body => visitsAll r f body
  | .content _ _ => []
  | .script _ => []

/-- The visited inputs of nodes in a row. -/
def visitsAll (r : Renderer) (f : Frame) : List Form.Node → List Visit
  | [] => []
  | n :: rest => visits r f n ++ visitsAll r f rest

/-- The visited inputs of the nodes of a row. -/
def formVisits (r : Renderer) (f : Frame) : RowForm → List Visit
  | .nodes body => visitsAll r f body
  | .fault _ => []

end

end Renderer

namespace Visit

/-- The id of the control that is drawn. -/
def controlId (r : Renderer) (v : Visit) : String :=
  v.frame.scope.elementId (r.inputKey v.frame.model v.field v.options)

/-- The text that reloads another field: its item is shown, and its choices are fetched from under
the route, whatever slashes that ends with, along with the value of a further field. -/
def reloadText (r : Renderer) (model field update : String) (params : Option ExtraParam) : String :=
  let route := String.ofList (r.drawing.config.baseRoute.toList.rdropWhile (· == '/'))
  let sent := match params with
    | none => none
    | some (.field name) => some (name, name)
    | some (.named param source) => some (param, source)
  "$('#" ++ model ++ "_" ++ update ++ "_input').show();\n" ++
    (sent.elim "" fun p => "var extra = $('#" ++ model ++ "_" ++ p.2 ++ "').val();\n") ++
    "$.get('" ++ route ++ "/" ++ pluralize field ++ "/'+$(this).val()+'/" ++ pluralize update ++
    "/?field_name=" ++ update ++ (sent.elim "" fun p => "&" ++ p.1 ++ "='+extra+'") ++
    "&format=js');\n"

/-- What happens when the control changes: a script of its own unless it is empty, or a reload if it
says what to reload. -/
def script? (r : Renderer) (c : Context) (v : Visit) : Option String :=
  match v.options.change with
  | none => none
  | some (.script s) => if s = "" then none else some s
  | some (.reload d) =>
    match d.update with
    | none => none
    | some update =>
      if update = "" then none else some (reloadText r c.modelName v.field update d.params)

/-- The listener of the control, if its behaviour does something. -/
def listener? (r : Renderer) (c : Context) (v : Visit) : Option Listener :=
  (v.script? r c).map fun s => ⟨v.controlId r, s⟩

/-- The input is drawn as this item. -/
def DrawnAs (r : Renderer) (c : Context) (v : Visit) (item : Html) : Prop :=
  ∃ out, r.input c v.frame v.field v.options = .ok out ∧ out.html = [item]

theorem reloadScript_eq (r : Renderer) (model field update : String)
    (params : Option ExtraParam) :
    reloadScript update params model r.drawing.config.baseRoute (pluralize field) =
      reloadText r model field update params := by
  rcases params with _ | name | ⟨param, source⟩
  · rfl
  · rfl
  · rfl

theorem listener?_toList (r : Renderer) (c : Context) (v : Visit) :
    (v.listener? r c).toList = r.listenersOf c v.field v.options (v.controlId r) := by
  unfold listener? script? Renderer.listenersOf
  cases v.options.change with
  | none => rfl
  | some change =>
    cases change with
    | script s =>
      by_cases empty : s = ""
      · simp [Change.live?, liveScript?, empty]
      · simp [Change.live?, liveScript?, empty]
    | reload d =>
      cases update : d.update with
      | none => simp [Change.live?, ChangeDirective.script?, ChangeDirective.target?, update]
      | some field =>
        by_cases empty : field = ""
        · simp [Change.live?, ChangeDirective.script?, ChangeDirective.target?, update, empty]
        · simp [Change.live?, ChangeDirective.script?, ChangeDirective.target?, update, empty,
            reloadScript_eq]

end Visit

variable {r : Renderer} {c : Context} {f : Frame} {field : String}

/-! ## What visits show -/

/-- The listeners and the elements that come with some visits: a listener for every behaviour that
does something, and all items, which keep their order in the document. -/
structure Shows (r : Renderer) (c : Context) (visits : List Visit) (listeners : List Listener)
    (elements : List Html) : Prop where
  listeners : listeners = visits.filterMap (·.listener? r c)
  items : r.drawing.theme = .standard →
    ∃ items, List.Forall₂ (Visit.DrawnAs r c) visits items ∧
      (elementsAll items).Sublist elements

namespace Shows

variable {visits visits' : List Visit} {listeners listeners' : List Listener}
  {elements elements' : List Html}

theorem nil : Shows r c [] [] elements where
  listeners := rfl
  items _ := ⟨[], .nil, List.nil_sublist _⟩

theorem append (h : Shows r c visits listeners elements)
    (h' : Shows r c visits' listeners' elements') :
    Shows r c (visits ++ visits') (listeners ++ listeners') (elements ++ elements') where
  listeners := by rw [h.listeners, h'.listeners, List.filterMap_append]
  items standard := by
    obtain ⟨items, drawn, kept⟩ := h.items standard
    obtain ⟨items', drawn', kept'⟩ := h'.items standard
    refine ⟨items ++ items', List.rel_append drawn drawn', ?_⟩
    rw [elementsAll_append]
    exact kept.append kept'

/-- More elements around and between the items do not matter. -/
theorem within (h : Shows r c visits listeners elements)
    (kept : r.drawing.theme = .standard → elements.Sublist elements') :
    Shows r c visits listeners elements' where
  listeners := h.listeners
  items standard := by
    obtain ⟨items, drawn, sub⟩ := h.items standard
    exact ⟨items, drawn, sub.trans (kept standard)⟩

end Shows

namespace Renderer

/-! ## Parts of a form -/

theorem item_li (standard : r.drawing.theme = .standard) {o : FieldOptions} {kind : String}
    {shown : Shown} {html : List Html} (h : r.item f field o kind shown = .ok html) :
    ∃ attrs body, html = [.element "li" attrs body] := by
  rw [item, standard, Template.item_fill] at h
  cases h
  exact ⟨_, _, rfl⟩

theorem input_shows {o : FieldOptions} {out : Output} (h : r.input c f field o = .ok out) :
    Shows r c [⟨f, field, o⟩] out.listeners (elementsAll out.html) where
  listeners := by
    rw [input_listeners h]
    have own := Visit.listener?_toList r c ⟨f, field, o⟩
    rw [List.filterMap_cons]
    cases found : Visit.listener? r c ⟨f, field, o⟩ with
    | none => rw [found] at own; exact own.symm
    | some l => rw [found] at own; exact own.symm
  items standard := by
    obtain ⟨kind, shown, -, item⟩ := input_inv h
    obtain ⟨attrs, body, html⟩ := item_li standard item
    refine ⟨[.element "li" attrs body], .cons ⟨out, h, html⟩ .nil, ?_⟩
    rw [html]

theorem fieldset_keeps {label : String} {o : FieldOptions} {body out : Output}
    (h : r.fieldset c label o body = .ok out) :
    out.listeners = body.listeners ∧ (r.drawing.theme = .standard →
      (elementsAll body.html).Sublist (elementsAll out.html)) := by
  obtain ⟨html, filled, h⟩ := bind_eq_ok.mp h
  cases h
  refine ⟨rfl, fun standard => ?_⟩
  rw [standard] at filled
  exact Theme.standard_sublist "form/fieldset.html" "body" BuiltIn.fieldset
    (by simp [Template.builtIn]) (by decide) rfl filled

theorem actions_keeps {body out : Output} (h : r.actions body = .ok out) :
    out.listeners = body.listeners ∧ (r.drawing.theme = .standard →
      (elementsAll body.html).Sublist (elementsAll out.html)) := by
  obtain ⟨html, filled, h⟩ := bind_eq_ok.mp h
  cases h
  refine ⟨rfl, fun standard => ?_⟩
  rw [standard] at filled
  exact Theme.standard_sublist "form/actions.html" "body" BuiltIn.actions
    (by simp [Template.builtIn]) (by decide) rfl filled

/-- A row keeps the listeners of its body if it has a record. -/
theorem row_keeps {row : Frame} {body out : Output} (h : r.row row field body = .ok out) :
    out.listeners = (if row.record.isNone then [] else body.listeners) ∧
      (r.drawing.theme = .standard →
        (elementsAll body.html).Sublist (elementsAll out.html)) := by
  obtain ⟨html, filled, h⟩ := bind_eq_ok.mp h
  cases h
  refine ⟨?_, fun standard => ?_⟩
  · cases row.record.isNone <;> rfl
  · rw [standard] at filled
    exact Theme.standard_sublist "form/has_many_fieldset.html" "body" BuiltIn.hasManyFieldset
      (by simp [Template.builtIn]) (by decide) rfl filled

/-- The template has no listeners. -/
theorem templateRow_listeners {row : Frame} {body out : Output}
    (h : r.templateRow row field body = .ok out) : out.listeners = [] := by
  obtain ⟨html, -, h⟩ := bind_eq_ok.mp h
  cases h
  rfl

theorem hasMany_keeps {drawn : List Output} {template out : Output}
    (h : r.hasMany f field drawn template = .ok out) :
    out.listeners = Output.allListeners drawn ++ template.listeners ∧
      (r.drawing.theme = .standard →
        (drawn.flatMap fun part => elementsAll part.html).Sublist (elementsAll out.html)) := by
  obtain ⟨html, filled, h⟩ := bind_eq_ok.mp h
  cases h
  refine ⟨rfl, fun standard => ?_⟩
  rw [standard] at filled
  have kept := Theme.standard_sublist "form/has_many.html" "rows" BuiltIn.hasMany
    (by simp [Template.builtIn]) (by decide) rfl filled
  rwa [Output.lines, elementsAll_joinLines, List.flatMap_map] at kept

/-- Rows drawn one after the other show the visits of their records. -/
theorem drawRows_shows {draw : Nat → Value → Except Fault Output}
    {visitsOf : Value × Nat → List Visit} {records : List Value} {index : Nat}
    (each : ∀ (i : Nat) (record : Value) (part : Output), draw i record = .ok part →
      Shows r c (visitsOf (record, i)) part.listeners (elementsAll part.html))
    {drawn : List Output} (h : drawRows draw index records = .ok drawn) :
    Shows r c ((records.zipIdx index).flatMap visitsOf) (Output.allListeners drawn)
      (drawn.flatMap fun part => elementsAll part.html) := by
  induction records generalizing index drawn with
  | nil =>
    cases h
    exact .nil
  | cons record rest ih =>
    obtain ⟨part, drawnPart, h⟩ := bind_eq_ok.mp h
    obtain ⟨others, drawnRest, h⟩ := bind_eq_ok.mp h
    cases h
    exact (each index record part drawnPart).append (ih drawnRest)

/-! ## Walking the form -/

mutual

theorem node_shows : ∀ (n : Form.Node) {f : Frame} {out : Output},
    r.node (r.input c) c f n = .ok out →
    Shows r c (r.visits f n) out.listeners (elementsAll out.html)
  | .input field o, f, out, h => by
    simp only [node] at h
    exact input_shows h
  | .fieldset label body o, f, out, h => by
    simp only [node] at h
    obtain ⟨parts, drawn, h⟩ := bind_eq_ok.mp h
    obtain ⟨same, kept⟩ := fieldset_keeps h
    rw [same]
    exact (nodes_shows body drawn).within kept
  | .actions body, f, out, h => by
    simp only [node] at h
    obtain ⟨parts, drawn, h⟩ := bind_eq_ok.mp h
    obtain ⟨same, kept⟩ := actions_keeps h
    rw [same]
    exact (nodes_shows body drawn).within kept
  | .hasMany field rows o, f, out, h => by
    obtain ⟨rel, drawn, blank, template, found, rowsDrawn, -, templateDrawn, h⟩ :=
      node_hasMany_inv h
    obtain ⟨listeners, kept⟩ := hasMany_keeps h
    rw [listeners, templateRow_listeners templateDrawn, List.append_nil]
    simp only [visits, found]
    refine (drawRows_shows (fun i record part drawnPart => ?_) rowsDrawn).within kept
    obtain ⟨body, bodyDrawn, rowDrawn⟩ := bind_eq_ok.mp drawnPart
    obtain ⟨listeners, keptRow⟩ := row_keeps rowDrawn
    rw [listeners]
    -- the inputs of a row without a record are drawn but not visited
    cases absent : record.isNone with
    | true => simpa [rowFrame, absent] using Shows.nil
    | false =>
      simpa [rowFrame, absent] using (rowForm_shows (rows record) bodyDrawn).within keptRow
  | .content content isMarkup, f, out, h => by
    simp only [node] at h
    cases h
    exact .nil
  | .script script, f, out, h => by
    simp only [node] at h
    obtain ⟨html, -, rfl⟩ := exceptMap_eq_ok.mp h
    exact .nil

/-- Nodes in a row show their visits one after the other. -/
theorem nodes_shows : ∀ (ns : List Form.Node) {f : Frame} {parts : List Output},
    r.nodes (r.input c) c f ns = .ok parts →
    Shows r c (r.visitsAll f ns) (Output.lines parts).listeners
      (elementsAll (Output.lines parts).html)
  | [], f, parts, h => by
    simp only [nodes] at h
    cases h
    exact .nil
  | n :: rest, f, parts, h => by
    obtain ⟨first, others, drawn, drawnRest, rfl⟩ := nodes_cons_inv h
    have whole := (node_shows n drawn).append (nodes_shows rest drawnRest)
    simpa only [visitsAll, Output.lines, Output.allListeners, elementsAll_joinLines, List.map_cons,
      List.flatMap_cons] using whole

theorem rowForm_shows : ∀ (form : RowForm) {f : Frame} {out : Output},
    r.rowForm (r.input c) c f form = .ok out →
    Shows r c (r.formVisits f form) out.listeners (elementsAll out.html)
  | .nodes body, f, out, h => by
    simp only [rowForm] at h
    obtain ⟨parts, drawn, h⟩ := bind_eq_ok.mp h
    cases h
    exact nodes_shows body drawn
  | .fault fault, f, out, h => by
    simp only [rowForm] at h
    cases h

end

/-- **The script of a form.** It has one listener for every visited input whose behaviour does
something, in the order of the visits; under the standard theme this is the order of the items in
the document. -/
theorem form_script (r : Renderer) (tree : Tree) (c : Context) (out : Rendered)
    (h : r.form tree c = .ok out) :
    ∃ listeners, listeners =
        (r.visitsAll (.ofContext c) tree.nodes).filterMap (·.listener? r c) ∧
      (listeners = [] → out.script = "") ∧
      (listeners ≠ [] → out.script =
        "$(function() \x7b\n" ++
          String.join (listeners.map fun l =>
            "$(document).on('change','#" ++ l.controlId ++ "', function() \x7b\n  " ++ l.script ++
              "\n\x7d);\n") ++
          "\x7d);") ∧
      (r.drawing.theme = .standard → ∃ items,
        List.Forall₂ (Visit.DrawnAs r c) (r.visitsAll (.ofContext c) tree.nodes) items ∧
          (elementsAll items).Sublist (elementsAll out.html)) := by
  obtain ⟨parts, drawn, h⟩ := bind_eq_ok.mp h
  obtain ⟨html, filled, h⟩ := bind_eq_ok.mp h
  cases h
  have shows := nodes_shows tree.nodes drawn
  refine ⟨_, rfl, ?_, ?_, fun standard => ?_⟩
  · intro none
    rw [readyScript, shows.listeners, none]
    rfl
  · intro some
    rw [readyScript, shows.listeners, if_neg (by simpa using some)]
    rfl
  · obtain ⟨items, drawnItems, kept⟩ := shows.items standard
    rw [standard] at filled
    exact ⟨items, drawnItems, kept.trans (Theme.standard_sublist "form/form.html" "body"
      BuiltIn.form (by simp [Template.builtIn]) (by decide) rfl filled)⟩

/-- The name of a contact, with a script of its own, and the numbers of its phones, which reload
another field. -/
def livelyForm : Tree := ⟨"contact", [
  .actions [.input "name" { FieldOptions.standard with change := some (.script "greet();") }],
  .hasMany "phones" (fun _ => .nodes [.input "number"
    { FieldOptions.standard with change := some (.reload ⟨some "carrier", none⟩) }]) .standard]⟩

/-- A contact with two phones and nothing between them. -/
def phonesApart : Context where
  record := .table [(.text "phones", .list [.table [], .none, .table []])]
  modelName := "contact"
  params := []
  errors := none
  required := []
  today := .first
  mode := .edit
  csrfToken := none

theorem form_script_phonesApart :
    ∃ out reload, addressBook.form livelyForm phonesApart = .ok out ∧
      reload = "$('#contact_carrier_input').show();\n" ++
        "$.get('/admin/numbers/'+$(this).val()+'/carriers/?field_name=carrier&format=js');\n" ∧
      out.script = "$(function() \x7b\n" ++
        String.join ([("contact_name", "greet();"),
            ("contact_phones_attributes_0_number", reload),
            ("contact_phones_attributes_2_number", reload)].map fun l =>
          "$(document).on('change','#" ++ l.1 ++ "', function() \x7b\n  " ++ l.2 ++
            "\n\x7d);\n") ++
        "\x7d);" := by
  obtain ⟨out, drawn⟩ : ∃ out, addressBook.form livelyForm phonesApart = .ok out :=
    exists_of_isOk (by decide +kernel)
  obtain ⟨listeners, visited, -, full, -⟩ := form_script addressBook livelyForm phonesApart out drawn
  let reload := "$('#contact_carrier_input').show();\n" ++
    "$.get('/admin/numbers/'+$(this).val()+'/carriers/?field_name=carrier&format=js');\n"
  obtain rfl : listeners = [⟨"contact_name", "greet();"⟩,
      ⟨"contact_phones_attributes_0_number", reload⟩,
      ⟨"contact_phones_attributes_2_number", reload⟩] := visited.trans (by decide +kernel)
  exact ⟨out, _, drawn, rfl, full (by simp)⟩

end Renderer

end Formwright.Render
