import Formwright.Proofs.Markup.Filling
import Formwright.Proofs.Render.Field
import Formwright.Proofs.Render.Walk

/-!
# Well-formed markup

Whatever a record, its submitted values, its errors and the options of a form hold, the markup of a
form is read as the tags of its templates: data never opens, closes or leaves an element. The three
ways a text could be written as it is are excluded by the hypotheses: raw content and scripts of the
tree (`Node.isPlain`), values that are marked up already (`Context.IsPlain`), and templates of a
project.

- `Context.IsPlain`, `Node.isPlain`: nothing is marked up beforehand.
- `bare_clean`, `select_clean`, `many_clean`: the controls.
- `input_clean`: an input in its item.
- `form_wellFormed`: a whole form.
-/

namespace Formwright

open Html Outcome Template

/-! ## Templates filled with plain values -/

/-- The built-in templates that hold no script. -/
def Template.escapingNames : List String :=
  (Template.builtIn.map Prod.fst).filter (· != "form/script.html")

theorem builtIn_safe :
    ∀ e ∈ Template.builtIn, e.1 ∈ Template.escapingNames → Node.areSafe e.2 = true := by
  decide

theorem Theme.standard_clean {name : String} (escaping : name ∈ Template.escapingNames)
    {scope : Scope} (safe : SafeScope scope) {hs : List Html}
    (h : Theme.standard.fill name scope = .ok hs) : CleanAll hs := by
  obtain ⟨⟨_, body⟩, listed, rfl⟩ := List.mem_map.mp (List.mem_of_mem_filter escaping)
  rw [Theme.standard_fill _ _ listed] at h
  exact fillAll_clean body (builtIn_safe _ listed escaping) safe h

namespace Drawing

variable {d : Drawing}

theorem fill_clean (standard : d.theme = .standard) {template : String}
    (escaping : template ∈ Template.escapingNames)
    {values : List (String × Value)} (plain : ∀ v ∈ values, v.2.isPlain = true) {hs : List Html}
    (h : d.fill template values = .ok hs) : CleanAll hs := by
  unfold Drawing.fill at h
  rw [standard] at h
  refine Theme.standard_clean escaping ?_ h
  intro e he
  obtain ⟨v, hv, rfl⟩ := List.mem_map.mp he
  exact plain v hv

theorem overlay_plain {attrs more : List (String × Value)}
    (attrsPlain : ∀ a ∈ attrs, a.2.isPlain = true) (morePlain : ∀ a ∈ more, a.2.isPlain = true) :
    Value.entriesPlain (overlay attrs more) = true := by
  refine Value.tableOf_leaves ?_
  intro e he
  obtain ⟨a, ha, rfl⟩ := List.mem_map.mp he
  rcases List.mem_append.mp ha with ha | ha
  · exact ⟨rfl, attrsPlain a ha⟩
  · exact ⟨rfl, morePlain a ha⟩

/-! ## Scalar controls -/

section Scalar

variable {desc : Descriptor} {o : FieldOptions} {hs : List Html}

theorem htmlOptions_plain (optionsPlain : ∀ a ∈ o.htmlOptions, a.2.isPlain = true) :
    ∀ a ∈ o.htmlOptions ++ [controlClass], a.2.isPlain = true := by
  intro a ha
  rcases List.mem_append.mp ha with ha | ha
  · exact optionsPlain a ha
  · rw [List.mem_singleton.mp ha]
    rfl

theorem checkbox_clean (standard : d.theme = .standard)
    (optionsPlain : ∀ a ∈ o.htmlOptions, a.2.isPlain = true)
    (h : d.checkbox desc o = .ok hs) : CleanAll hs := by
  refine fill_clean standard (by decide) ?_ h
  rintro _ (_ | ⟨_, ⟨⟩⟩)
  refine overlay_plain ?_ optionsPlain
  cases isChecked desc.value <;> simp

theorem textarea_clean (standard : d.theme = .standard)
    (optionsPlain : ∀ a ∈ o.htmlOptions, a.2.isPlain = true)
    (h : d.textarea desc o = .ok hs) : CleanAll hs := by
  refine fill_clean standard (by decide) ?_ h
  have attrs : Value.entriesPlain (overlay [("id", .text desc.id), ("name", .text desc.name),
      ("placeholder", .ofText? o.prompt)] (o.htmlOptions ++ [controlClass])) = true :=
    overlay_plain (by simp) (htmlOptions_plain optionsPlain)
  simp [attrs]

theorem fileName_plain {v : Value} (plain : v.isPlain = true) : (fileName v).isPlain = true := by
  cases v with
  | markup s => cases plain
  | _ => rfl

theorem file_clean (standard : d.theme = .standard) (valuePlain : desc.value.isPlain = true)
    (optionsPlain : ∀ a ∈ o.htmlOptions, a.2.isPlain = true)
    (h : d.file desc o = .ok hs) : CleanAll hs := by
  refine fill_clean standard (by decide) ?_ h
  rintro _ (_ | ⟨_, ⟨⟩⟩)
  refine overlay_plain ?_ (htmlOptions_plain optionsPlain)
  simp [fileName_plain valuePlain]

theorem input_clean (standard : d.theme = .standard)
    (optionsPlain : ∀ a ∈ o.htmlOptions, a.2.isPlain = true)
    (h : d.input desc o = .ok hs) : CleanAll hs := by
  obtain ⟨maxlength, -, h⟩ := bind_eq_ok.mp h
  refine fill_clean standard (by decide) ?_ h
  rintro _ (_ | ⟨_, ⟨⟩⟩)
  exact overlay_plain (by simp) (htmlOptions_plain optionsPlain)

theorem choiceValue_plain (c : Temporal.Choice) : (choiceValue c).isPlain = true := rfl

theorem selectValue_plain (s : Temporal.Select) : (selectValue s).isPlain = true := by
  have choices : Value.arePlain (s.choices.map choiceValue) = true := by
    rw [Value.arePlain_iff]
    intro v hv
    obtain ⟨choice, -, rfl⟩ := List.mem_map.mp hv
    exact choiceValue_plain choice
  simp [selectValue, Value.attributesPlain_iff, choices]

theorem temporal_clean (standard : d.theme = .standard) {kind : Temporal.Kind} {today : Date}
    (h : d.temporal kind desc o today = .ok hs) : CleanAll hs := by
  obtain ⟨selects, -, h⟩ := bind_eq_ok.mp h
  refine fill_clean standard (by decide) ?_ h
  rintro _ (_ | ⟨_, ⟨⟩⟩)
  rw [Value.isPlain_list, Value.arePlain_iff]
  intro v hv
  obtain ⟨s, -, rfl⟩ := List.mem_map.mp hv
  exact selectValue_plain s

theorem bare_clean (standard : d.theme = .standard) (valuePlain : desc.value.isPlain = true)
    (optionsPlain : ∀ a ∈ o.htmlOptions, a.2.isPlain = true) {kind : ControlKind} {today : Date}
    (h : d.bare kind desc o today = .ok hs) : CleanAll hs := by
  cases kind with
  | boolean => exact checkbox_clean standard optionsPlain h
  | textarea => exact textarea_clean standard optionsPlain h
  | date => exact temporal_clean standard h
  | time => exact temporal_clean standard h
  | datetime => exact temporal_clean standard h
  | file => exact file_clean standard valuePlain optionsPlain h
  | select => exact input_clean standard optionsPlain h
  | collection => exact input_clean standard optionsPlain h
  | text => exact input_clean standard optionsPlain h

theorem errors_clean (standard : d.theme = .standard) {errors : Option (List Value)}
    (errorsPlain : ∀ es, errors = some es → Value.arePlain es = true)
    (h : d.errors errors = .ok hs) : CleanAll hs := by
  unfold Drawing.errors at h
  split at h
  · cases h; trivial
  · cases h; trivial
  · refine fill_clean standard (by decide) ?_ h
    rintro _ (_ | ⟨_, ⟨⟩⟩)
    exact errorsPlain _ rfl

theorem withErrors_clean (standard : d.theme = .standard)
    (errorsPlain : ∀ es, desc.errors = some es → Value.arePlain es = true)
    {body : Except Fault (List Html)} (bodyClean : ∀ hs, body = .ok hs → CleanAll hs)
    (h : d.withErrors desc body = .ok hs) : CleanAll hs := by
  obtain ⟨first, drawn, h⟩ := bind_eq_ok.mp h
  obtain ⟨rest, sentences, h⟩ := bind_eq_ok.mp h
  cases h
  exact cleanAll_append.mpr ⟨bodyClean first drawn, errors_clean standard errorsPlain sentences⟩

end Scalar

/-! ## Controls with a collection -/

section Collections

variable {desc : Descriptor} {o : FieldOptions} {hs : List Html}

theorem select_clean (standard : d.theme = .standard)
    (errorsPlain : ∀ es, desc.errors = some es → Value.arePlain es = true)
    (optionsPlain : ∀ a ∈ o.htmlOptions, a.2.isPlain = true) {choices : List SelectOption}
    (h : d.select desc choices o = .ok hs) : CleanAll hs := by
  refine withErrors_clean standard errorsPlain (fun hs drawn => ?_) h
  refine fill_clean standard (by decide) ?_ drawn
  have attrs : Value.entriesPlain (overlay [("id", .text desc.id), ("name", .text desc.name)]
      (o.htmlOptions ++ [controlClass])) = true :=
    overlay_plain (by simp) (htmlOptions_plain optionsPlain)
  have listed : Value.arePlain (choices.map SelectOption.toValue) = true := by
    rw [Value.arePlain_iff]
    intro v hv
    obtain ⟨choice, -, rfl⟩ := List.mem_map.mp hv
    rfl
  simp [attrs, listed]

theorem many_clean (standard : d.theme = .standard)
    (errorsPlain : ∀ es, desc.errors = some es → Value.arePlain es = true) {items : List Value}
    {identity : Value → Value} {selected : List Value}
    (h : d.many desc items o identity selected = .ok hs) : CleanAll hs := by
  obtain ⟨texts, -, h⟩ := bind_eq_ok.mp h
  refine withErrors_clean standard errorsPlain (fun hs drawn => ?_) h
  refine fill_clean standard (by decide) ?_ drawn
  have listed : Value.arePlain (texts.map fun t =>
      memberValue desc (o.style.getD .select) (selected.map Value.toText) t.1 t.2) = true := by
    rw [Value.arePlain_iff]
    intro v hv
    obtain ⟨t, -, rfl⟩ := List.mem_map.mp hv
    rfl
  simp [listed]

end Collections

end Drawing

/-! ## What is marked up beforehand -/

/-- No value of the context is marked up. -/
structure Context.IsPlain (c : Context) : Prop where
  record : c.record.isPlain = true
  params : Value.attributesPlain c.params = true
  errors : ∀ pairs, c.errors = some pairs → Value.attributesPlain pairs = true

/-- The node writes nothing as it is: it is no script, holds no raw content, and no attribute given
for a control is marked up. -/
def Form.Node.isPlain : Form.Node → Bool
  | .input _ o => Value.attributesPlain o.htmlOptions
  | .content _ isMarkup => !isMarkup
  | .script _ => false
  | _ => true

namespace Render

open Form

/-- The record of the frame and what was submitted for it are plain. -/
structure Frame.IsPlain (f : Frame) : Prop where
  record : f.record.isPlain = true
  values : ∀ entries, f.values = some entries → Value.entriesPlain entries = true

namespace Frame

variable {f : Frame}

theorem submitted?_plain (plain : f.IsPlain) {key : String} {v : Value}
    (found : f.submitted? key = some v) : v.isPlain = true := by
  obtain ⟨entries, given, named⟩ := Option.bind_eq_some_iff.mp found
  exact Value.isPlain_named? (plain.values entries given) named

theorem value_plain (plain : f.IsPlain) (key : String) : (f.value key).isPlain = true := by
  unfold Frame.value
  cases found : f.submitted? key with
  | none => exact Value.isPlain_field plain.record key
  | some v => exact submitted?_plain plain found

theorem ofContext_plain {c : Context} (plain : c.IsPlain) : (Frame.ofContext c).IsPlain := by
  refine ⟨plain.record, ?_⟩
  rintro entries ⟨⟩
  unfold Context.modelParams
  split
  · rename_i entries found
    obtain ⟨before, after, split, -⟩ := List.lookup_eq_some_iff.mp found
    exact Value.attributesPlain_iff.mp plain.params (c.modelName, .table entries) (by simp [split])
  · rfl

end Frame

/-! ## Rows -/

theorem submittedAt_plain {submitted v : Value} (plain : submitted.isPlain = true) {index : Int}
    (found : Rows.submittedAt submitted index = some v) : v.isPlain = true := by
  unfold Rows.submittedAt at found
  split at found
  · rename_i entries
    rw [Option.orElse_eq_orElse, Option.orElse_eq_or] at found
    rcases Option.or_eq_some_iff.mp found with named | ⟨-, keyed⟩
    · exact Value.isPlain_named? plain named
    · obtain ⟨e, he, rfl⟩ := Option.map_eq_some_iff.mp keyed
      exact (Value.entriesPlain_iff.mp plain e (List.mem_of_find?_eq_some he)).2
  · split at found
    · cases found
    · exact Value.arePlain_iff.mp plain v (List.mem_of_getElem? found)
  · cases found

theorem rowValues_plain {submitted : Value} (plain : submitted.isPlain = true) {index : Int}
    {entries : List (Value × Value)} (found : Rows.values submitted index = some entries) :
    Value.entriesPlain entries = true := by
  obtain ⟨v, at_index, isTable⟩ := Option.bind_eq_some_iff.mp found
  have vPlain := submittedAt_plain plain at_index
  cases v with
  | table es => cases isTable; exact vPlain
  | _ => cases isTable

namespace Renderer

variable {r : Renderer} {f : Frame}

theorem relation_plain (plain : f.IsPlain) {field : String} {rel : Relation}
    (found : r.relation f field = .ok rel) :
    (∀ record ∈ rel.records, record.isPlain = true) ∧ rel.submitted.isPlain = true := by
  obtain ⟨-, members, submitted⟩ := relation_inv found
  refine ⟨Value.isPlain_membersOrNone (Or.inl (Value.isPlain_field plain.record field)) members, ?_⟩
  rw [submitted]
  exact Value.isPlain_ofOption fun v hv => Frame.submitted?_plain plain hv

theorem rowFrame_plain {rel : Relation} {record : Value} (recordPlain : record.isPlain = true)
    (submittedPlain : rel.submitted.isPlain = true) (field : String) (index : Nat) :
    (rowFrame rel f field index record).IsPlain :=
  ⟨recordPlain, fun _ found => rowValues_plain submittedPlain found⟩

theorem templateFrame_plain (rel : Relation) (field : String) :
    (templateFrame rel f field).IsPlain :=
  ⟨rfl, fun _ found => nomatch found⟩

/-! ## Inputs -/

section Inputs

variable {c : Context} {field : String} {o : FieldOptions}

theorem errorsOf_plain (plain : c.IsPlain) {errors : Option (List Value)}
    (h : r.errorsOf c f field = .ok errors) :
    ∀ es, errors = some es → Value.arePlain es = true := by
  rintro es rfl
  unfold errorsOf at h
  split at h
  · obtain ⟨key, -, selected⟩ := exceptMap_eq_ok.mp h
    obtain ⟨pairs, recorded, rfl⟩ := Option.map_eq_some_iff.mp selected
    rw [Value.arePlain_iff]
    intro v hv
    obtain ⟨e, he, rfl⟩ := List.mem_map.mp hv
    exact Value.attributesPlain_iff.mp (plain.errors pairs recorded) e (List.mem_of_mem_filter he)
  · cases h

theorem describe_plain (plain : c.IsPlain) (framePlain : f.IsPlain) {key : String}
    {desc : Descriptor} (h : r.describe c f field key o = .ok desc) :
    desc.value.isPlain = true ∧ ∀ es, desc.errors = some es → Value.arePlain es = true := by
  obtain ⟨errors, found, h⟩ := bind_eq_ok.mp h
  cases h
  exact ⟨Frame.value_plain framePlain key, errorsOf_plain plain found⟩

theorem drawn_clean (standard : r.drawing.theme = .standard) (plain : c.IsPlain)
    (framePlain : f.IsPlain) (optionsPlain : ∀ a ∈ o.htmlOptions, a.2.isPlain = true)
    {shown : Shown} (h : Drawn r c f field o shown) : CleanAll shown.html := by
  cases h with
  | many _ described drawn =>
    refine Drawing.many_clean standard ?_ drawn
    exact (describe_plain plain framePlain described).2
  | single described drawn =>
    exact Drawing.select_clean standard (describe_plain plain framePlain described).2 optionsPlain
      drawn
  | scalar _ described drawn =>
    obtain ⟨valuePlain, errorsPlain⟩ := describe_plain plain framePlain described
    exact Drawing.withErrors_clean standard errorsPlain
      (fun hs bare => Drawing.bare_clean standard valuePlain optionsPlain bare) drawn

theorem input_clean (standard : r.drawing.theme = .standard) (plain : c.IsPlain)
    (framePlain : f.IsPlain) (optionsPlain : ∀ a ∈ o.htmlOptions, a.2.isPlain = true)
    {out : Output} (h : r.input c f field o = .ok out) : CleanAll out.html := by
  obtain ⟨kind, shown, drawn, item⟩ := input_inv h
  unfold Renderer.item at item
  rw [standard] at item
  refine Theme.standard_clean (by decide) ?_ item
  have bodyClean := drawn_clean standard plain framePlain optionsPlain drawn
  simp [SafeScope, Binding.Safe, fragmentNames, bodyClean]

end Inputs

/-! ## Forms -/

theorem joinLines_clean {blocks : List (List Html)} (clean : ∀ block ∈ blocks, CleanAll block) :
    CleanAll (joinLines blocks) := by
  induction blocks with
  | nil => trivial
  | cons block rest ih =>
    cases rest with
    | nil => exact clean block List.mem_cons_self
    | cons next rest =>
      refine cleanAll_append.mpr ⟨clean block List.mem_cons_self, inert_text "\n", ?_⟩
      exact ih fun b hb => clean b (List.mem_cons_of_mem block hb)

theorem lines_clean {parts : List Output} (clean : ∀ part ∈ parts, CleanAll part.html) :
    CleanAll (Output.lines parts).html := by
  refine joinLines_clean fun block hb => ?_
  obtain ⟨part, hp, rfl⟩ := List.mem_map.mp hb
  exact clean part hp

theorem identity_plain {record : Value} (plain : record.isPlain = true) :
    (r.schema.identity record).isPlain = true := Value.isPlain_field plain _

/-- What is put around nodes is clean if its template is filled safely. -/
theorem around_clean (standard : r.drawing.theme = .standard) {template : String}
    (escaping : template ∈ Template.escapingNames) {scope : Template.Scope}
    (safe : SafeScope scope) {around : List Html → Output} {out : Output}
    (h : (r.drawing.theme.fill template scope >>= fun hs => pure (around hs)) = .ok out)
    (html : ∀ hs, (around hs).html = hs) : CleanAll out.html := by
  obtain ⟨hs, filled, h⟩ := bind_eq_ok.mp h
  cases h
  rw [standard] at filled
  rw [html]
  exact Theme.standard_clean escaping safe filled

/-- What is drawn of a plain tree in plain frames is clean, node by node. -/
theorem clean_invariant {c : Context} (standard : r.drawing.theme = .standard)
    (plain : c.IsPlain) :
    Invariant r (r.input c) c Frame.IsPlain
      (fun n f => (n.Everywhere fun n => n.isPlain) ∧ f.IsPlain)
      (fun _ out => CleanAll out.html) (fun _ out => CleanAll out.html) where
  input := by
    rintro f field o out ⟨plainNode, framePlain⟩ drawn
    have options : Value.attributesPlain o.htmlOptions = true := Node.everywhere_self plainNode
    exact input_clean standard plain framePlain (Value.attributesPlain_iff.mp options) drawn
  content := by
    rintro f content isMarkup ⟨plainNode, -⟩
    cases isMarkup with
    | true => cases Node.everywhere_self plainNode
    | false => exact ⟨inert_text content, trivial⟩
  script := by
    rintro f script out ⟨plainNode, -⟩
    cases Node.everywhere_self plainNode
  lines := lines_clean
  group := by
    rintro f label body o ⟨plainNode, framePlain⟩ n hn
    exact ⟨Node.everywhere_group plainNode n hn, framePlain⟩
  fieldset := by
    rintro f label body o inner out - clean drawn
    refine around_clean standard (by decide) ?_ drawn fun _ => rfl
    simp [SafeScope, Binding.Safe, fragmentNames, clean]
  grouped := by
    rintro f body ⟨plainNode, framePlain⟩ n hn
    exact ⟨Node.everywhere_actions plainNode n hn, framePlain⟩
  actions := by
    rintro f body inner out - clean drawn
    refine around_clean standard (by decide) ?_ drawn fun _ => rfl
    simp [SafeScope, Binding.Safe, fragmentNames, clean]
  relation := by
    rintro f field rows o rel ⟨plainNode, framePlain⟩ found
    obtain ⟨recordsPlain, submittedPlain⟩ := relation_plain framePlain found
    have met : ∀ (record : Value) {f : Frame}, f.IsPlain →
        (rows record).Met (fun n f => (n.Everywhere fun n => n.isPlain) ∧ f.IsPlain) f :=
      fun record _ framePlain =>
        RowForm.met_of_everywhere (Node.everywhere_rows plainNode record) fun n hn =>
          ⟨hn, framePlain⟩
    refine ⟨?_, templateFrame_plain rel field, met .none (templateFrame_plain rel field)⟩
    intro i record at_i
    have rowPlain : (rowFrame rel f field i record).IsPlain :=
      rowFrame_plain (recordsPlain record (List.mem_of_getElem? at_i)) submittedPlain field i
    exact ⟨rowPlain, met record rowPlain⟩
  row := by
    rintro f field body out framePlain clean drawn
    refine around_clean standard (by decide) ?_ drawn fun _ => rfl
    simp [SafeScope, Binding.Safe, fragmentNames, clean, identity_plain framePlain.record]
  templateRow := by
    rintro f field body out - clean drawn
    refine around_clean standard (by decide) ?_ drawn fun _ => rfl
    simp [SafeScope, Binding.Safe, fragmentNames, clean]
  block := by
    rintro f field rows o rel drawn template out - - rowsClean templateClean drawnBlock
    refine around_clean standard (by decide) ?_ drawnBlock fun _ => rfl
    have listed : CleanAll (Output.lines drawn).html := lines_clean fun part hp => by
      obtain ⟨_, _, _, clean⟩ := rowsClean part hp
      exact clean
    simp [SafeScope, Binding.Safe, fragmentNames, listed, templateClean]

theorem form_clean (standard : r.drawing.theme = .standard) {tree : Tree}
    (treePlain : Node.AllEverywhere (fun n => n.isPlain) tree.nodes) {c : Context}
    (plain : c.IsPlain)
    {out : Rendered} (h : r.form tree c = .ok out) : CleanAll out.html := by
  obtain ⟨parts, drawn, h⟩ := bind_eq_ok.mp h
  obtain ⟨html, filled, h⟩ := bind_eq_ok.mp h
  cases h
  have partsClean : ∀ part ∈ parts, CleanAll part.html :=
    (clean_invariant standard plain).nodes_holds
      (fun n hn => ⟨Node.allEverywhere_iff.mp treePlain n hn, Frame.ofContext_plain plain⟩) drawn
  rw [standard] at filled
  refine Theme.standard_clean (by decide) ?_ filled
  simp [SafeScope, Binding.Safe, fragmentNames, lines_clean partsClean]

/-- **Well-formed markup.** The markup of a form is read, character by character, as the tags of its
markup tree; these are tags of templates, properly nested, and no attribute value leaves its
quotes. -/
theorem form_wellFormed (r : Renderer) (standard : r.drawing.theme = .standard) (tree : Tree)
    (treePlain : Node.AllEverywhere (fun n => n.isPlain) tree.nodes) (c : Context)
    (plain : c.IsPlain) (out : Rendered) (h : r.form tree c = .ok out) :
    Reader.read out.markup = some (tagsAll out.html) ∧ nested [] (tagsAll out.html) = true ∧
      ∀ t ∈ tagsAll out.html, t.name ∈ "input" :: elementTags ∧
        ∀ a ∈ t.attrs, ∀ ch ∈ a.2.toList, Reader.isInert ch = true := by
  have clean : CleanAll out.html := form_clean standard treePlain plain h
  refine ⟨Reader.read_writeAll clean, ?_, tagsAll_clean out.html clean⟩
  simpa [nested] using nested_tagsAll out.html clean [] []

/-- A contact whose texts would leave the places they are written in. -/
def hostileContact : Context where
  record := .table [
    (.text "name", .text "\"><script>"),
    (.text "phones", .list [.table [(.text "id", .text "'>"), (.text "number", .text "</ol>")]])]
  modelName := "contact"
  params := []
  errors := some [("name", .text "<b>")]
  required := []
  today := .first
  mode := .new
  csrfToken := some "\""

theorem form_wellFormed_hostile :
    ∃ out, addressBook.form contactForm hostileContact = .ok out ∧
      Reader.read out.markup = some (tagsAll out.html) ∧ nested [] (tagsAll out.html) = true ∧
        ∀ t ∈ tagsAll out.html, t.name ∈ "input" :: elementTags ∧
          ∀ a ∈ t.attrs, ∀ ch ∈ a.2.toList, Reader.isInert ch = true := by
  obtain ⟨out, drawn⟩ : ∃ out, addressBook.form contactForm hostileContact = .ok out :=
    exists_of_isOk (by decide +kernel)
  have treePlain : Node.AllEverywhere (fun n => n.isPlain) contactForm.nodes :=
    contactForm_everywhere rfl rfl rfl
  refine ⟨out, drawn, form_wellFormed addressBook rfl contactForm treePlain hostileContact ?_ out
    drawn⟩
  exact ⟨by decide, by decide, by rintro pairs ⟨⟩; rfl⟩

end Renderer

end Render

end Formwright
