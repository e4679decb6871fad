import Formwright.Proofs.Render.Brackets
import Formwright.Proofs.Render.Rows
import Formwright.Proofs.Render.Showing

/-!
# Submitting one value

The name that a control is written with is the path under which its value is read. A form is
rendered twice for one record, without submitted values and with those of one control, and both are
walked side by side. In every frame either what is left of the way to the control was submitted, or
nothing was submitted and no control of the frame has the name.

- `Readable`: forms whose names are read back.
- `OnWay`, `OffWay`, `Beside`: the invariant of the frames.
- `form_submitted`: the value is shown in its control, and nothing else changes.
-/

namespace Formwright

namespace FieldScope

/-- The keys of a row's own inputs are no keys of rows. -/
theorem own_ne_rowsKey (relation : String) :
    rowsKey relation ≠ "id" ∧ rowsKey relation ≠ "_destroy" := by
  have last : ∀ {key : String}, rowsKey relation = key →
      key.toList.getLast? = some 's' := by
    rintro _ rfl
    simp [rowsKey]
  constructor
  · intro eq
    exact absurd (last eq) (by decide)
  · intro eq
    exact absurd (last eq) (by decide)

end FieldScope

namespace Way

theorem relations_append (way way' : Way) :
    relations (way ++ way') = way.relations ++ way'.relations := List.map_append

theorem row?_append (record : Value) (way way' : Way) :
    row? record (way ++ way') = row? record way >>= fun row => row? row way' := by
  induction way generalizing record with
  | nil => rfl
  | cons step rest ih =>
    obtain ⟨relation, i⟩ := step
    simp only [List.cons_append, row?, ih, Option.bind_eq_bind, Option.bind_assoc]

end Way

theorem FieldScope.along_append (s : FieldScope) (way way' : Way) :
    s.along (way ++ way') = (s.along way).along way' := by
  induction way generalizing s with
  | nil => rfl
  | cons step rest ih =>
    obtain ⟨relation, i⟩ := step
    exact ih (s.nested relation (toString i))

namespace Render

open Form Html Outcome Renderer

/-! ## Forms whose names are read back -/

/-- The names of the form are parts of paths, and the inputs of one row read keys of their own.
Every node is shown, no input has attributes of its own, and neither choices nor rows are
computed. -/
structure Readable (r : Renderer) (ns : List Form.Node) (model : String) : Prop where
  root : isBracketless model = true
  input : ∀ {path : List String} {m field : String} {o : FieldOptions},
    Placed r ns model path m (.input field o) →
      o.display = true ∧ o.htmlOptions = [] ∧ r.IsConstant o.collection ∧
      isBracketless field = true ∧
      (o.collection.isSome = true → isBracketless (Schema.keyOf (r.assoc? m field) field) = true)
  group : ∀ {path : List String} {m label : String} {body : List Form.Node} {o : FieldOptions},
    Placed r ns model path m (.fieldset label body o) → o.display = true
  rows : ∀ {path : List String} {m relation : String} {rows : Value → RowForm}
    {o : FieldOptions}, Placed r ns model path m (.hasMany relation rows o) →
      isBracketless relation = true ∧ Unvarying rows
  distinct : ∀ {path : List String} {m m' field field' : String} {o o' : FieldOptions},
    Placed r ns model path m (.input field o) → Placed r ns model path m' (.input field' o') →
      r.inputKey m field o = r.inputKey m' field' o' → field = field' ∧ o = o'
  apart : ∀ {path : List String} {m m' field relation : String} {o o' : FieldOptions}
    {rows : Value → RowForm}, Placed r ns model path m (.input field o) →
      Placed r ns model path m' (.hasMany relation rows o') →
      r.inputKey m field o ≠ FieldScope.rowsKey relation

section

variable {r : Renderer} {ns : List Form.Node} {model : String} {path : List String} {m : String}

theorem Readable.key_bracketless (readable : Readable r ns model) {field : String}
    {o : FieldOptions} (placed : Placed r ns model path m (.input field o)) :
    isBracketless (r.inputKey m field o) = true := by
  obtain ⟨-, -, -, free, keyFree⟩ := readable.input placed
  unfold inputKey
  split
  · rename_i chosen
    split
    · exact isBracketless_idsKey free
    · exact keyFree chosen
  · exact free

theorem Readable.path_bracketless (readable : Readable r ns model) {n : Form.Node}
    (placed : Placed r ns model path m n) : ∀ relation ∈ path, isBracketless relation = true := by
  intro relation mem
  obtain ⟨before, after, rfl⟩ := List.append_of_mem mem
  obtain ⟨m', rows, o, through⟩ := placed.through
  exact (readable.rows through).1

end

/-! ## Frames side by side -/

/-- What is left of the way to a control was submitted in the frame. -/
structure OnWay (name key x : String) (rest : Way) (f : Frame) : Prop where
  values : f.values = some (rest.submission key (.text x))
  name : (f.scope.along rest).elementName key = name

/-- Nothing was submitted in the frame, and the name belongs to no control of it. -/
structure OffWay (name : String) (f : Frame) : Prop where
  values : ∀ key, f.submitted? key = none
  name : ∀ part, ¬ f.scope.Under part name

/-- The frames of one row, without submitted values and with those of one control. -/
structure Beside (way : Way) (name key x : String) (path : List String) (f f' : Frame) : Prop
    extends SamePlace f f' where
  record : f.record = f'.record
  unsubmitted : ∀ key, f.submitted? key = none
  side : (∃ done rest, way = done ++ rest ∧ path = done.relations ∧ OnWay name key x rest f') ∨
    OffWay name f'

section

variable {name key x : String} {rest : Way} {f : Frame}

/-- In a frame on the way one key at most was submitted, and the name is under this key. -/
theorem OnWay.cases_part (on : OnWay name key x rest f) (keyFree : isBracketless key = true)
    (wayFree : ∀ relation ∈ rest.relations, isBracketless relation = true) {part : String}
    (partFree : isBracketless part = true) :
    rest = [] ∧ part = key ∨
    (∃ relation i rest', rest = (relation, i) :: rest' ∧ part = FieldScope.rowsKey relation) ∨
    f.submitted? part = none ∧ ¬ f.scope.Under part name := by
  have value : f.submitted? part = Value.named? (rest.submission key (.text x)) part := by
    rw [Frame.submitted?, on.values]
    rfl
  cases rest with
  | nil =>
    by_cases eq : part = key
    · exact Or.inl ⟨rfl, eq⟩
    · refine Or.inr (Or.inr ⟨?_, fun under => eq ?_⟩)
      · rw [value, Way.submission, Value.named?_cons, Value.isText_text,
          beq_eq_false_iff_ne.mpr (Ne.symm eq)]
        rfl
      · have own : f.scope.Under key name := on.name ▸ FieldScope.under_elementName f.scope key
        exact under.unique own partFree keyFree
  | cons step rest' =>
    obtain ⟨relation, i⟩ := step
    by_cases eq : part = FieldScope.rowsKey relation
    · exact Or.inr (Or.inl ⟨relation, i, rest', rfl, eq⟩)
    · refine Or.inr (Or.inr ⟨?_, fun under => eq ?_⟩)
      · rw [value, Way.submission, Value.named?_cons, Value.isText_text,
          beq_eq_false_iff_ne.mpr (Ne.symm eq)]
        rfl
      · obtain ⟨inner, inRow⟩ := FieldScope.under_along f.scope relation i rest' key
        rw [on.name] at inRow
        have relationFree := wayFree relation List.mem_cons_self
        exact under.unique inRow.of_nested partFree (isBracketless_rowsKey relationFree)

end

/-! ## One input in both renderings -/

/-- What is drawn differs in the control of the name at most, and the control shows the text. Where
the key is that of a row's own inputs, these have the same name and do not change. -/
structure SameBut (name key x : String) (out out' : Output) : Prop where
  blank : blankAll name out.html = blankAll name out'.html
  listeners : out.listeners = out'.listeners
  shows : key ≠ "id" → key ≠ "_destroy" → ∀ control ∈ controlsAll out'.html,
    control.name? = some name → control.Shows x

/-- Two renderings of a form: in the second one a text was submitted by one control. -/
structure Target (r : Renderer) (ns : List Form.Node) (c c' : Context) (way : Way)
    (name key x : String) : Prop where
  standard : r.drawing.theme = .standard
  readable : Readable r ns c.modelName
  request : SameRequest c c'
  /-- The control is that of an input of the form. -/
  placed : ∃ m field o, Placed r ns c.modelName way.relations m (.input field o) ∧
    r.inputKey m field o = key ∧ r.isTextual m field o = true
  given : x ≠ ""

section

variable {r : Renderer} {ns : List Form.Node} {c c' : Context} {way : Way}
  {name key x : String} {path : List String} {f f' : Frame}

theorem Target.key_bracketless (target : Target r ns c c' way name key x) :
    isBracketless key = true := by
  obtain ⟨m, field, o, placed, rfl, -⟩ := target.placed
  exact target.readable.key_bracketless placed

theorem Target.way_bracketless (target : Target r ns c c' way name key x) {done rest : Way}
    (whole : way = done ++ rest) : ∀ relation ∈ rest.relations, isBracketless relation = true := by
  obtain ⟨m, field, o, placed, -, -⟩ := target.placed
  intro relation mem
  refine target.readable.path_bracketless placed relation ?_
  rw [whole, Way.relations_append]
  exact List.mem_append_right _ mem

/-- An input for which nothing was submitted is drawn alike. -/
theorem unsubmitted_alike (target : Target r ns c c' way name key x) {field : String}
    {o : FieldOptions} (placed : Placed r ns c.modelName path f.model (.input field o))
    (beside : Beside way name key x path f f')
    (absent : f'.submitted? (r.inputKey f.model field o) = none)
    (other : ¬ f'.scope.Under (r.inputKey f.model field o) name) :
    Alike (SameBut name key x) (r.input c f field o) (r.input c' f' field o) := by
  obtain ⟨displayed, plain, constant, -, -⟩ := target.readable.input placed
  have value : f.value (r.inputKey f.model field o) = f'.value (r.inputKey f.model field o) := by
    rw [Frame.value, Frame.value, absent, beside.unsubmitted, beside.record]
  have selected : o.collection.isSome = true → isMany (r.assoc? f.model field) = true →
      r.selectedIds f field = r.selectedIds f' field := by
    intro chosen many
    have ids : f'.submitted? (idsKey field) = none := by
      rwa [inputKey, if_pos chosen, if_pos many] at absent
    rw [selectedIds, selectedIds, ids, beside.unsubmitted, beside.record]
  refine (input_same target.request beside.toSamePlace displayed constant value selected).ended.mono
    fun out out' ended => ?_
  obtain ⟨same, -, drawn⟩ := ended
  refine ⟨by rw [same.html], same.listeners, fun _ _ control mem named => ?_⟩
  obtain ⟨rest, named', -⟩ := input_named target.standard (Drawing.leaves_of_plain plain _) drawn
    control mem
  rw [named] at named'
  refine absurd ⟨rest, ?_⟩ other
  rw [beside.model]
  exact Option.some.inj named'

/-- **One input in both renderings.** -/
theorem input_alike (target : Target r ns c c' way name key x) {field : String}
    {o : FieldOptions} (placed : Placed r ns c.modelName path f.model (.input field o))
    (beside : Beside way name key x path f f') :
    Alike (SameBut name key x) (r.input c f field o) (r.input c' f' field o) := by
  -- off the way nothing was submitted; on it the key decides what the input shows
  rcases beside.side with ⟨done, rest, whole, rfl, on⟩ | off
  · have partFree := target.readable.key_bracketless placed
    obtain ⟨mT, fieldT, oT, placedT, keyT, textual⟩ := target.placed
    rcases on.cases_part target.key_bracketless (target.way_bracketless whole) partFree with
      ⟨rfl, isKey⟩ | ⟨relation, i, rest', rfl, isRows⟩ | ⟨absent, other⟩
    · -- the end of the way: this is the input whose value was submitted
      rw [List.append_nil] at whole
      subst whole
      obtain ⟨rfl, rfl⟩ := target.readable.distinct placed placedT (isKey.trans keyT.symm)
      obtain rfl : f.model = mT := placed.model_eq.trans placedT.model_eq.symm
      obtain ⟨displayed, plain, constant, -, -⟩ := target.readable.input placed
      have submitted : f'.value (r.inputKey f.model field o) = .text x := by
        rw [Frame.value, Frame.submitted?, on.values, isKey]
        simp [Way.submission, Value.named?_cons]
      have isName : f.scope.elementName (r.inputKey f.model field o) = name := by
        rw [beside.scope, isKey]
        exact on.name
      refine (input_showing target.standard target.request beside.toSamePlace displayed plain
        constant textual submitted target.given).mono fun out out' again => ?_
      rw [isName] at again
      obtain ⟨redrawn, listeners⟩ := again
      refine ⟨redrawn.blank, listeners, fun _ _ control mem _ => ?_⟩
      obtain ⟨only, all, -, shows⟩ := redrawn.shown
      rw [all] at mem
      rwa [List.mem_singleton.mp mem]
    · -- no input of a row has the key of the next rows
      rw [whole, Way.relations_append] at placedT
      obtain ⟨m', rows, o', through⟩ : ∃ m' rows o', Placed r ns c.modelName done.relations m'
        (.hasMany relation rows o') := placedT.through
      exact absurd isRows (target.readable.apart placed through)
    · exact unsubmitted_alike target placed beside absent other
  · exact unsubmitted_alike target placed beside (off.values _) (off.name _)

end

/-! ## Rows in both renderings -/

/-- Values that are submitted for one row are those of this row alone. -/
theorem values_single (entries : List (Value × Value)) (i j : Nat) :
    Rows.values (.table [(.text (toString j), .table entries)]) i =
      if i = j then some entries else none := by
  have numeral : toString (i : Int) = toString i := rfl
  by_cases eq : i = j
  · subst eq
    simp [Rows.values, Rows.submittedAt, Value.named?_cons, numeral, Value.table?]
  · have other : toString j ≠ toString i := fun same => eq (Text.numeral_injective same).symm
    have absent : Value.named? [(.text (toString j), .table entries)] (toString i) = none := by
      rw [Value.named?_cons, Value.isText_text, beq_eq_false_iff_ne.mpr other]
      rfl
    have noNumber : Value.entry? [(.text (toString j), .table entries)] (.int i) = none := by
      simp [Value.entry?]
    rw [if_neg eq, Rows.values, Rows.submittedAt]
    simp only [numeral, absent, noNumber]
    rfl

/-- On a way through rows, what is submitted for a row is what is left of the way. -/
theorem submitted_rows {relation key : String} {j : Nat} {v : Value} {rest : Way} {f : Frame}
    (values : f.values = some (Way.submission key v ((relation, j) :: rest))) (i : Nat) :
    Rows.values (.ofOption (f.submitted? (FieldScope.rowsKey relation))) i =
      if i = j then some (rest.submission key v) else none := by
  have submitted : f.submitted? (FieldScope.rowsKey relation) =
      some (.table [(.text (toString j), .table (rest.submission key v))]) := by
    rw [Frame.submitted?, values]
    simp [Way.submission, Value.named?_cons]
  rw [submitted]
  exact values_single _ i j

section

variable {r : Renderer} {ns : List Form.Node} {c c' : Context} {way : Way}
  {name key x : String} {path : List String} {f f' : Frame} {field : String} {rows : Value → RowForm}
  {o : FieldOptions} {rel rel' : Renderer.Relation}

/-- Below a relation the way goes on with a row of it, or nothing is submitted there. -/
theorem relation_cases (target : Target r ns c c' way name key x)
    (placed : Placed r ns c.modelName path f.model (.hasMany field rows o))
    (beside : Beside way name key x path f f') :
    (∃ (done : Way) (j : Nat) (rest : Way), way = done ++ (field, j) :: rest ∧
      path = done.relations ∧ OnWay name key x ((field, j) :: rest) f') ∨
    f'.submitted? (FieldScope.rowsKey field) = none ∧
      ¬ f'.scope.Under (FieldScope.rowsKey field) name := by
  rcases beside.side with ⟨done, rest, whole, rfl, on⟩ | off
  · have partFree := isBracketless_rowsKey (target.readable.rows placed).1
    rcases on.cases_part target.key_bracketless (target.way_bracketless whole) partFree with
      ⟨rfl, isKey⟩ | ⟨relation, j, rest', rfl, same⟩ | aside
    · -- the submitted value is that of an input beside the relation
      obtain ⟨m, fieldT, oT, placedT, rfl, -⟩ := target.placed
      rw [List.append_nil] at whole
      subst whole
      exact absurd isKey.symm (target.readable.apart placedT placed)
    · obtain rfl := FieldScope.rowsKey_injective same
      exact Or.inl ⟨done, j, rest', whole, rfl, on⟩
    · exact Or.inr aside
  · exact Or.inr ⟨off.values _, off.name _⟩

theorem rows_beside (target : Target r ns c c' way name key x)
    (placed : Placed r ns c.modelName path f.model (.hasMany field rows o))
    (beside : Beside way name key x path f f') (same : r.SameRelation Eq f f' field rel rel')
    (i : Nat) (record : Value) :
    Beside way name key x (path ++ [field]) (rowFrame rel f field i record)
      (rowFrame rel' f' field i record) where
  model := same.related
  scope := by rw [rowFrame, rowFrame, beside.scope]
  bindErrors := rfl
  record := rfl
  unsubmitted := by
    intro part
    have none := same.submitted
    rw [beside.unsubmitted] at none
    rw [Frame.submitted?, rowFrame, none]
    rfl
  side := by
    have submitted := same.submitted'
    rcases relation_cases target placed beside with ⟨done, j, rest, whole, rfl, on⟩ | ⟨absent, off⟩
    · have values : (rowFrame rel' f' field i record).values =
          if i = j then some (rest.submission key (.text x)) else none := by
        rw [rowFrame, submitted]
        exact submitted_rows on.values i
      -- the way goes on in one row; nothing was submitted for the others
      by_cases eq : i = j
      · subst eq
        rw [if_pos rfl] at values
        refine Or.inl ⟨done ++ [(field, i)], rest, ?_, ?_, values, on.name⟩
        · rw [whole, List.append_assoc]
          rfl
        · rw [Way.relations_append]
          rfl
      · rw [if_neg eq] at values
        refine Or.inr ⟨fun part => by rw [Frame.submitted?, values]; rfl, fun part under => eq ?_⟩
        obtain ⟨part', inRow⟩ := FieldScope.under_along f'.scope field j rest key
        rw [on.name] at inRow
        exact under.row_unique inRow
    · rw [absent] at submitted
      refine Or.inr ⟨fun part => ?_, fun part under => off under.of_nested⟩
      rw [Frame.submitted?, rowFrame, submitted]
      rfl

theorem template_beside (target : Target r ns c c' way name key x)
    (placed : Placed r ns c.modelName path f.model (.hasMany field rows o))
    (beside : Beside way name key x path f f') (related : rel.related = rel'.related) :
    Beside way name key x (path ++ [field]) (templateFrame rel f field)
      (templateFrame rel' f' field) where
  model := related
  scope := by rw [templateFrame, templateFrame, beside.scope]
  bindErrors := rfl
  record := rfl
  unsubmitted _ := rfl
  side := by
    refine Or.inr ⟨fun _ => rfl, fun part under => ?_⟩
    rcases relation_cases target placed beside with ⟨done, j, rest, whole, rfl, on⟩ | ⟨-, off⟩
    · obtain ⟨part', inRow⟩ := FieldScope.under_along f'.scope field j rest key
      rw [on.name] at inRow
      exact inRow.not_template under
    · exact off under.of_nested

theorem relation_alike (target : Target r ns c c' way name key x)
    (placed : Placed r ns c.modelName path f.model (.hasMany field rows o))
    (beside : Beside way name key x path f f') :
    Alike (RowsMet (fun f f' => ∃ path, Beside way name key x path f f')
        (fun n f f' => ∃ path, Placed r ns c.modelName path f.model n ∧
          Beside way name key x path f f') f f' field rows)
      (r.relation f field) (r.relation f' field) := by
  have members : Alike Eq (f.record.field field).membersOrNone
      (f'.record.field field).membersOrNone := by
    rw [← beside.record]
    exact Alike.refl fun _ _ => rfl
  refine (relation_same beside.model members).mono fun rel rel' same => ?_
  have unvarying := (target.readable.rows placed).2
  refine ⟨by rw [same.records], fun i record record' at_i at_i' => ?_, ?_⟩
  · rw [← same.records, at_i] at at_i'
    obtain rfl := Option.some.inj at_i'
    have sideBySide := rows_beside target placed beside same i record
    exact ⟨⟨_, sideBySide⟩, placed.builtMet unvarying same.model same.related sideBySide⟩
  · have sideBySide := template_beside target placed beside same.related
    exact ⟨⟨_, sideBySide⟩, placed.builtMet unvarying same.model same.related sideBySide⟩

end

/-! ## Forms in both renderings -/

namespace SameBut

variable {name key x : String}

theorem of_eq {out : Output} (unnamed : controlsAll out.html = []) :
    SameBut name key x out out := by
  refine ⟨rfl, rfl, fun _ _ control mem => ?_⟩
  rw [unnamed] at mem
  cases mem

/-- What is put around both markups changes nothing, if the controls that come with it have other
names. -/
theorem around {out out' : Output} {around : List Html → List Html} {own : List Html}
    (h : SameBut name key x out out') (isAround : Template.Around around own)
    (others : key ≠ "id" → key ≠ "_destroy" → ∀ control ∈ own, control.name? ≠ some name) :
    SameBut name key x (out.around (around out.html)) (out'.around (around out'.html)) where
  blank := isAround.blank h.blank
  listeners := h.listeners
  shows := by
    intro noId noDestroy control mem named
    rcases List.mem_append.mp (isAround.controls _ ▸ mem) with mem | mem
    · exact h.shows noId noDestroy control mem named
    · exact absurd named (others noId noDestroy control mem)

theorem silent {out out' : Output} (h : SameBut name key x out out') :
    SameBut name key x out.silent out'.silent := ⟨h.blank, rfl, h.shows⟩

theorem after {out out' : Output} {call : Invocation} (h : SameBut name key x out out') :
    SameBut name key x (out.after call) (out'.after call) := ⟨h.blank, h.listeners, h.shows⟩

theorem joinLines {parts parts' : List Output}
    (h : List.Forall₂ (SameBut name key x) parts parts') :
    (parts.map fun part => blankAll name part.html) =
        (parts'.map fun part => blankAll name part.html) ∧
      Output.allListeners parts = Output.allListeners parts' ∧
      (key ≠ "id" → key ≠ "_destroy" →
        ∀ control ∈ controlsAll (Html.joinLines (parts'.map (·.html))),
          control.name? = some name → control.Shows x) := by
  induction h with
  | nil =>
    refine ⟨rfl, rfl, fun _ _ control mem => ?_⟩
    cases mem
  | cons first _ ih =>
    obtain ⟨blank, listeners, shows⟩ := ih
    refine ⟨?_, ?_, fun noId noDestroy control mem named => ?_⟩
    · rw [List.map_cons, List.map_cons, blank, first.blank]
    · rw [Output.allListeners, Output.allListeners, List.flatMap_cons, List.flatMap_cons,
        first.listeners]
      exact congrArg _ listeners
    · rw [controlsAll_joinLines, List.map_cons, List.flatMap_cons, ← controlsAll_joinLines] at mem
      rcases List.mem_append.mp mem with mem | mem
      · exact first.shows noId noDestroy control mem named
      · exact shows noId noDestroy control mem named

theorem lines {parts parts' : List Output} (h : List.Forall₂ (SameBut name key x) parts parts') :
    SameBut name key x (.lines parts) (.lines parts') := by
  obtain ⟨blank, listeners, shows⟩ := joinLines h
  refine ⟨?_, listeners, shows⟩
  rw [Output.lines, Output.lines, blankAll_joinLines, blankAll_joinLines, List.map_map,
    List.map_map]
  exact congrArg Html.joinLines blank

end SameBut

section

variable {r : Renderer} {ns : List Form.Node} {c c' : Context} {way : Way}
  {name key x : String} {path : List String} {f f' : Frame} {field : String}

theorem rowInputs_other (target : Target r ns c c' way name key x)
    (beside : Beside way name key x path f f') (noId : key ≠ "id") (noDestroy : key ≠ "_destroy")
    (identity : Value) : ∀ control ∈ rowInputs f identity, control.name? ≠ some name := by
  -- neither of the two keys leads on
  have free : ∀ own, own = "id" ∨ own = "_destroy" → f.scope.elementName own ≠ name := by
    intro own isOwn same
    have under : f'.scope.Under own name := by
      rw [← same, beside.scope]
      exact FieldScope.under_elementName _ _
    rcases beside.side with ⟨done, rest, whole, -, on⟩ | off
    · have ownFree : isBracketless own = true := by rcases isOwn with rfl | rfl <;> rfl
      rcases on.cases_part target.key_bracketless (target.way_bracketless whole) ownFree with
        ⟨-, isKey⟩ | ⟨relation, j, rest', -, isRows⟩ | ⟨-, other⟩
      · rcases isOwn with rfl | rfl
        · exact noId isKey.symm
        · exact noDestroy isKey.symm
      · rcases isOwn with rfl | rfl
        · exact (FieldScope.own_ne_rowsKey relation).1 isRows.symm
        · exact (FieldScope.own_ne_rowsKey relation).2 isRows.symm
      · exact other under
    · exact off.name _ under
  intro control mem named
  unfold rowInputs at mem
  split at mem
  · cases mem
  · simp only [Template.destroyInputs, List.cons_append, List.nil_append, List.mem_cons,
      List.not_mem_nil, or_false] at mem
    rcases mem with rfl | rfl | rfl
    · exact free "_destroy" (Or.inr rfl) (Option.some.inj named)
    · exact free "_destroy" (Or.inr rfl) (Option.some.inj named)
    · exact free "id" (Or.inl rfl) (Option.some.inj named)

/-- **Both renderings.** They differ in one control at most, node by node. -/
theorem submission_simulation (target : Target r ns c c' way name key x) :
    Simulation r (r.input c) (r.input c') c c'
      (fun f f' => ∃ path, Beside way name key x path f f')
      (fun n f f' => ∃ path, Placed r ns c.modelName path f.model n ∧
        Beside way name key x path f f')
      (fun _ => SameBut name key x) (fun _ => SameBut name key x) where
  input := by
    rintro f f' field o ⟨path, placed, beside⟩
    exact input_alike target placed beside
  content _ := .of_eq rfl
  script := by
    intro f f' script _
    exact Alike.refl fun out drawn => .of_eq (script_controls target.standard drawn)
  lines := .lines
  group := by
    rintro f f' label body o ⟨path, placed, beside⟩ n mem
    exact ⟨path, placed.grouped mem, beside⟩
  fieldset := by
    rintro f f' label body o out out' ⟨path, placed, -⟩ same
    have displayed := target.readable.group placed
    have visible : r.fieldset c' label o out' = r.fieldset c label o out' := by
      simp only [Renderer.fieldset, displayed, Bool.true_or]
    obtain ⟨around, isAround, drawn⟩ := fieldset_drawn target.standard c label o
    rw [visible, drawn, drawn]
    exact .ok (same.around isAround fun _ _ _ mem => absurd mem List.not_mem_nil)
  grouped := by
    rintro f f' body ⟨path, placed, beside⟩ n mem
    exact ⟨path, placed.action mem, beside⟩
  actions := by
    rintro f f' body out out' - same
    obtain ⟨around, isAround, drawn⟩ := actions_drawn target.standard
    rw [drawn, drawn]
    exact .ok (same.around isAround fun _ _ _ mem => absurd mem List.not_mem_nil)
  relation := by
    rintro f f' field rows o ⟨path, placed, beside⟩
    exact relation_alike target placed beside
  row := by
    rintro f f' field out out' ⟨path, beside⟩ same
    have row : r.row f' field out' = r.row f field out' := by
      simp only [Renderer.row, beside.record, beside.scope]
    obtain ⟨around, isAround, drawn⟩ := row_drawn target.standard f field
    rw [row, drawn, drawn]
    refine .ok (.after ?_)
    have others := fun noId noDestroy => rowInputs_other target beside noId noDestroy
      (r.schema.identity f.record)
    split
    · exact same.silent.around isAround others
    · exact same.around isAround others
  templateRow := by
    rintro f f' field out out' ⟨path, beside⟩ same
    have row : r.templateRow f' field out' = r.templateRow f field out' := by
      simp only [Renderer.templateRow, beside.scope]
    obtain ⟨around, isAround, drawn⟩ := templateRow_drawn target.standard f field
    rw [row, drawn, drawn]
    exact .ok (.after (same.silent.around isAround fun _ _ _ mem => absurd mem List.not_mem_nil))
  block := by
    rintro f f' field rows o rel rel' drawn drawn' template template' ⟨path, -, beside⟩ - - related
      sameTemplate
    have each : List.Forall₂ (SameBut name key x) drawn drawn' := by
      refine related.imp fun out out' row => ?_
      obtain ⟨_, _, _, same⟩ := row
      exact same
    obtain ⟨blank, listeners, shows⟩ := SameBut.joinLines each
    rw [hasMany_drawn target.standard, hasMany_drawn target.standard]
    refine .ok ⟨?_, ?_, fun noId noDestroy control mem named => ?_⟩
    · rw [blockIn, blockIn, beside.scope]
      refine Template.blockMarkup_blank ?_ sameTemplate.blank
      rw [blankAll_joinLines, blankAll_joinLines, List.map_map, List.map_map]
      exact congrArg Html.joinLines blank
    · rw [listeners, sameTemplate.listeners]
    · rw [blockIn, Template.blockMarkup_controls] at mem
      rcases List.mem_append.mp mem with mem | mem
      · exact shows noId noDestroy control mem named
      · exact sameTemplate.shows noId noDestroy control mem named

end

/-! ## The control at the end of a way -/

theorem drawn_of_mem {r : Renderer} {draw : Drawer} {c : Context} {f : Frame}
    {ns : List Form.Node} {n : Form.Node} (mem : n ∈ ns) {parts : List Output}
    (h : r.nodes draw c f ns = .ok parts) : ∃ part ∈ parts, r.node draw c f n = .ok part := by
  induction ns generalizing parts with
  | nil => cases mem
  | cons first rest ih =>
    obtain ⟨part, others, drawn, drawnRest, rfl⟩ := Renderer.nodes_cons_inv h
    rcases List.mem_cons.mp mem with rfl | mem
    · exact ⟨part, List.mem_cons_self, drawn⟩
    · obtain ⟨part', mem', drawn'⟩ := ih mem drawnRest
      exact ⟨part', List.mem_cons_of_mem _ mem', drawn'⟩

theorem controls_of_mem {parts : List Output} {part : Output} (mem : part ∈ parts) :
    ∀ control ∈ controlsAll part.html, control ∈ controlsAll (Output.lines parts).html := by
  intro control inPart
  rw [Output.lines, controlsAll_joinLines, List.flatMap_map]
  exact List.mem_flatMap.mpr ⟨part, mem, inPart⟩

/-- What a node is drawn from at the end of a way, where the rest of a way was submitted. -/
structure Reached (m : String) (row : Value) (scope : FieldScope)
    (values : List (Value × Value)) (f : Frame) : Prop where
  model : f.model = m
  record : f.record = row
  scope : f.scope = scope
  values : f.values = some values

/-- **Reaching a node.** A node that a way leads to is drawn for the row at its end. -/
theorem reached {r : Renderer} {draw : Drawer} {c : Context} {ns : List Form.Node}
    (standard : r.drawing.theme = .standard) {key x : String} {f : Frame}
    (readable : Readable r ns f.model) {parts : List Output}
    (drawn : r.nodes draw c f ns = .ok parts) {path : List String} {m : String} {n : Form.Node}
    (placed : Placed r ns f.model path m n) :
    ∀ (done rest : Way) {row : Value}, path = done.relations →
      f.values = some ((done ++ rest).submission key (.text x)) →
      done.row? f.record = some row →
      ∃ f' part, Reached m row (f.scope.along done) (rest.submission key (.text x)) f' ∧
        r.node draw c f' n = .ok part ∧
        ∀ control ∈ controlsAll part.html, control ∈ controlsAll (Output.lines parts).html := by
  induction placed with
  | top mem =>
    intro done rest row isPath values atEnd
    obtain rfl : done = [] := List.map_eq_nil_iff.mp isPath.symm
    obtain ⟨part, part_mem, part_drawn⟩ := drawn_of_mem mem drawn
    exact ⟨f, part, ⟨rfl, Option.some.inj atEnd, rfl, values⟩, part_drawn, controls_of_mem part_mem⟩
  | grouped placed mem ih =>
    intro done rest row isPath values atEnd
    obtain ⟨f', whole, here, whole_drawn, inside⟩ := ih done rest isPath values atEnd
    simp only [Renderer.node] at whole_drawn
    obtain ⟨inner, inner_drawn, whole_drawn⟩ := bind_eq_ok.mp whole_drawn
    obtain ⟨part, part_mem, part_drawn⟩ := drawn_of_mem mem inner_drawn
    obtain ⟨around, isAround, group⟩ := fieldset_drawn standard c _ _
    rw [group] at whole_drawn
    cases whole_drawn
    refine ⟨f', part, here, part_drawn, fun control in_part => inside control ?_⟩
    exact isAround.controls _ ▸ List.mem_append_left _ (controls_of_mem part_mem control in_part)
  | action placed mem ih =>
    intro done rest row isPath values atEnd
    obtain ⟨f', whole, here, whole_drawn, inside⟩ := ih done rest isPath values atEnd
    simp only [Renderer.node] at whole_drawn
    obtain ⟨inner, inner_drawn, whole_drawn⟩ := bind_eq_ok.mp whole_drawn
    obtain ⟨part, part_mem, part_drawn⟩ := drawn_of_mem mem inner_drawn
    obtain ⟨around, isAround, group⟩ := actions_drawn standard
    rw [group] at whole_drawn
    cases whole_drawn
    refine ⟨f', part, here, part_drawn, fun control in_part => inside control ?_⟩
    exact isAround.controls _ ▸ List.mem_append_left _ (controls_of_mem part_mem control in_part)
  | row placed record mem ih =>
    rename_i field rows o n
    intro done rest row isPath values atEnd
    -- the last step of the way goes into a row of this relation
    obtain ⟨done, i, rfl, rfl⟩ : ∃ (before : Way) (i : Nat), done = before ++ [(field, i)] ∧
        _ = before.relations := by
      rcases List.eq_nil_or_concat done with rfl | ⟨before, ⟨last, i⟩, rfl⟩
      · simp [Way.relations] at isPath
      · rw [List.concat_eq_append, Way.relations_append] at isPath
        obtain ⟨same, lastSame⟩ := List.append_inj' isPath rfl
        cases lastSame
        exact ⟨before, i, List.concat_eq_append, same⟩
    rw [List.append_assoc] at values
    rw [Way.row?_append] at atEnd
    obtain ⟨owner, atOwner, atEnd⟩ := Option.bind_eq_some_iff.mp atEnd
    obtain ⟨f', whole, here, whole_drawn, inside⟩ := ih done ((field, i) :: rest) rfl values atOwner
    have unvarying : Unvarying rows := (readable.rows placed).2
    rw [unvarying record] at mem
    cases given : rows .none with
    | fault fault =>
      rw [given] at mem
      cases mem
    | nodes body =>
      rw [given] at mem
      obtain ⟨rel, drawnRows, template, found, -, each, -, block⟩ := hasMany_inv whole_drawn
      obtain ⟨⟨a, assoc, related⟩, members, submitted⟩ := relation_inv found
      have at_i : rel.records[i]? = some row := by
        rw [here.record] at members
        simp only [Way.row?, members, Except.toOption, Option.bind_eq_bind,
          Option.bind_some] at atEnd
        obtain ⟨record, at_i, eq⟩ := Option.bind_eq_some_iff.mp atEnd
        exact at_i.trans eq
      obtain ⟨inner, rowPart, row_mem, inner_drawn, row_drawn⟩ := each i row at_i
      rw [unvarying row, given] at inner_drawn
      simp only [Renderer.rowForm] at inner_drawn
      obtain ⟨innerParts, innerParts_drawn, inner_drawn⟩ := bind_eq_ok.mp inner_drawn
      cases inner_drawn
      obtain ⟨part, part_mem, part_drawn⟩ := drawn_of_mem mem innerParts_drawn
      refine ⟨rowFrame rel f' field i row, part, ⟨?_, rfl, ?_, ?_⟩, part_drawn, ?_⟩
      · rw [rowFrame, related, relatedModel, ← here.model, assoc?_of_ok assoc]
        rfl
      · rw [rowFrame, here.scope, FieldScope.along_append]
        rfl
      · rw [rowFrame, submitted]
        exact (submitted_rows here.values i).trans (if_pos rfl)
      · intro control in_part
        refine inside control ?_
        rw [hasMany_html standard block, blockIn, Template.blockMarkup_controls,
          controlsAll_joinLines, List.flatMap_map]
        refine List.mem_append_left _ (List.mem_flatMap.mpr ⟨rowPart, ?_, ?_⟩)
        · exact List.mem_of_getElem? row_mem
        · rw [row_controls standard row_drawn]
          exact List.mem_append_left _ (controls_of_mem part_mem control in_part)

/-- A text control or single select is one control. -/
theorem textual_control {r : Renderer} (standard : r.drawing.theme = .standard) {c : Context}
    {f : Frame} {field x : String} {o : FieldOptions} (displayed : o.display = true)
    (plain : o.htmlOptions = []) (constant : r.IsConstant o.collection)
    (textual : r.isTextual f.model field o = true)
    (submitted : f.value (r.inputKey f.model field o) = .text x) (given : x ≠ "") {out : Output}
    (drawn : r.input c f field o = .ok out) :
    ∃ control, controlsAll out.html = [control] ∧
      control.name? = some (f.scope.elementName (r.inputKey f.model field o)) ∧
      control.Shows x := by
  have request : SameRequest c c := ⟨rfl, rfl, rfl, rfl⟩
  have place : SamePlace f f := ⟨rfl, rfl, rfl⟩
  have again := input_showing standard request place displayed plain constant textual submitted
    given
  obtain ⟨out', drawn', redrawn, -⟩ := again.exists_of_ok drawn
  rw [drawn] at drawn'
  cases drawn'
  exact redrawn.shown

/-! ## A form of contacts -/

theorem contactForm_readable : Readable addressBook contactForm.nodes "contact" where
  root := by decide
  input := by
    intro path m field o placed
    rcases contactForm_placed placed with ⟨-, -, eq | eq⟩ | ⟨-, -, eq⟩
    · cases eq
      exact ⟨rfl, rfl, ⟨_, fun _ _ => rfl⟩, by decide, nofun⟩
    · cases eq
    · cases eq
      exact ⟨rfl, rfl, ⟨_, fun _ _ => rfl⟩, by decide, nofun⟩
  group := by
    intro path m label body o placed
    rcases contactForm_placed placed with ⟨-, -, eq | eq⟩ | ⟨-, -, eq⟩ <;> cases eq
  rows := by
    intro path m relation rows o placed
    rcases contactForm_placed placed with ⟨-, -, eq | eq⟩ | ⟨-, -, eq⟩
    · cases eq
    · cases eq
      exact ⟨by decide, fun _ => rfl⟩
    · cases eq
  distinct := by
    intro path m m' field field' o o' placed placed' _
    rcases contactForm_placed placed with ⟨rfl, -, eq | eq⟩ | ⟨rfl, -, eq⟩
    · rcases contactForm_placed placed' with ⟨-, -, eq' | eq'⟩ | ⟨isRow, -, -⟩
      · cases eq
        cases eq'
        exact ⟨rfl, rfl⟩
      · cases eq'
      · cases isRow
    · cases eq
    · rcases contactForm_placed placed' with ⟨isTop, -, -⟩ | ⟨-, -, eq'⟩
      · cases isTop
      · cases eq
        cases eq'
        exact ⟨rfl, rfl⟩
  apart := by
    intro path m m' field relation o o' rows placed placed'
    rcases contactForm_placed placed' with ⟨rfl, -, eq' | eq'⟩ | ⟨-, -, eq'⟩
    · cases eq'
    · cases eq'
      rcases contactForm_placed placed with ⟨-, rfl, eq | eq⟩ | ⟨isRow, -, -⟩
      · cases eq
        decide
      · cases eq
      · cases isRow
    · cases eq'

/-! ## Submitting one value -/

/-- A form before anything is submitted. -/
def fresh (c : Context) : Context := { c with params := [] }

/-- A form after one control was submitted. -/
def submitting (c : Context) (name x : String) : Context :=
  { c with params := decode name (.text x) }

/-- The control of an input that is drawn for a row. -/
structure ControlOf (r : Renderer) (c : Context) (m : String) (row : Value) (scope : FieldScope)
    (field : String) (o : FieldOptions) (control : Html) : Prop where
  drawn : ∃ f out, f.model = m ∧ f.record = row ∧ f.scope = scope ∧
    r.input c f field o = .ok out ∧ controlsAll out.html = [control]
  name : control.name? = some (scope.elementName (r.inputKey m field o))

section

variable {r : Renderer} {tree : Tree} {c : Context} {way : Way} {m field : String}
  {o : FieldOptions} {name x : String}

theorem submitting_values (readable : Readable r tree.nodes c.modelName)
    (placed : Placed r tree.nodes c.modelName way.relations m (.input field o))
    (named : name =
      ((FieldScope.ofModel c.modelName).along way).elementName (r.inputKey m field o)) :
    (submitting c name x).modelParams = way.submission (r.inputKey m field o) (.text x) := by
  have decoded : decode name (.text x) =
      [(c.modelName, .table (way.submission (r.inputKey m field o) (.text x)))] := by
    rw [named]
    exact decode_elementName _ readable.root (readable.key_bracketless placed)
      (readable.path_bracketless placed)
  simp only [Context.modelParams, submitting, decoded, List.lookup_cons, beq_self_eq_true]

/-- The control at the end of a way shows the text that was submitted for it. -/
theorem control_of_way (standard : r.drawing.theme = .standard) {ns : List Form.Node} {f : Frame}
    (readable : Readable r ns f.model) {parts : List Output}
    (drawn : r.nodes (r.input c) c f ns = .ok parts)
    (placed : Placed r ns f.model way.relations m (.input field o))
    (textual : r.isTextual m field o = true) {row : Value}
    (existing : way.row? f.record = some row)
    (values : f.values = some (way.submission (r.inputKey m field o) (.text x)))
    (given : x ≠ "") :
    ∃ control ∈ controlsAll (Output.lines parts).html, control.Shows x ∧
      ControlOf r c m row (f.scope.along way) field o control := by
  obtain ⟨f', part, here, partDrawn, inside⟩ := reached standard readable drawn placed way [] rfl
    (by rw [List.append_nil, values]) existing
  obtain ⟨displayed, plain, constant, -, -⟩ := readable.input placed
  obtain ⟨rfl, rfl, isScope, partValues⟩ := here
  -- the way ends here, so that the value is that of the input's own key
  have submitted : f'.value (r.inputKey f'.model field o) = .text x := by
    rw [Frame.value, Frame.submitted?, partValues]
    simp [Way.submission, Value.named?_cons]
  simp only [Renderer.node] at partDrawn
  obtain ⟨control, only, isNamed, shows⟩ := textual_control standard displayed plain constant
    textual submitted given partDrawn
  rw [isScope] at isNamed
  refine ⟨control, inside control (only ▸ List.mem_singleton_self control), shows, ?_, isNamed⟩
  exact ⟨f', part, rfl, rfl, isScope, partDrawn, only⟩

/-- A name in brackets is none of the names before the body of a form. -/
theorem bracket_mem_name (s : FieldScope) (way : Way) (key : String) :
    '[' ∈ ((s.along way).elementName key).toList := by
  rw [FieldScope.toList_elementName]
  simp

/-- **Submitting one value.** A text that is submitted under the name of a text control or single
select is shown in this control, and the rest of the form is the same. -/
theorem form_submitted (r : Renderer) (standard : r.drawing.theme = .standard) (tree : Tree)
    (c : Context) (readable : Readable r tree.nodes c.modelName) (way : Way) (m field : String)
    (o : FieldOptions) (placed : Placed r tree.nodes c.modelName way.relations m (.input field o))
    (textual : r.isTextual m field o = true) (row : Value) (existing : way.row? c.record = some row)
    (name : String) (named : name =
      ((FieldScope.ofModel c.modelName).along way).elementName (r.inputKey m field o))
    (x : String) (given : x ≠ "") (out : Rendered) (drawn : r.form tree (fresh c) = .ok out) :
    ∃ out', r.form tree (submitting c name x) = .ok out' ∧
      out'.script = out.script ∧
      blankAll name out'.html = blankAll name out.html ∧
      (∃ control ∈ controlsAll out'.html, control.Shows x ∧
        ControlOf r (submitting c name x) m row ((FieldScope.ofModel c.modelName).along way) field o
          control) ∧
      (r.inputKey m field o ≠ "id" → r.inputKey m field o ≠ "_destroy" →
        ∀ control ∈ controlsAll out'.html, control.name? = some name → control.Shows x) := by
  have values := submitting_values (x := x) readable placed named
  have target : Target r tree.nodes (fresh c) (submitting c name x) way name (r.inputKey m field o)
      x := ⟨standard, readable, ⟨rfl, rfl, rfl, rfl⟩, ⟨m, field, o, placed, rfl, textual⟩, given⟩
  have beside : Beside way name (r.inputKey m field o) x [] (.ofContext (fresh c))
      (.ofContext (submitting c name x)) := by
    refine ⟨⟨rfl, rfl, rfl⟩, rfl, fun key => rfl, Or.inl ⟨[], way, rfl, rfl, ?_, named.symm⟩⟩
    rw [Frame.ofContext, values]
  obtain ⟨parts, nodesDrawn, drawn⟩ := bind_eq_ok.mp drawn
  obtain ⟨html, filled, drawn⟩ := bind_eq_ok.mp drawn
  cases drawn
  obtain ⟨parts', nodesDrawn', related⟩ := ((submission_simulation target).nodes_alike tree.nodes
    fun n mem => ⟨[], .top mem, beside⟩).exists_of_ok nodesDrawn
  have same := SameBut.lines related
  -- the inputs before the body of a form are the same in both
  obtain ⟨before, beforeNamed, formDrawn⟩ := Template.form_drawn c.csrfToken (c.mode == .edit)
  rw [standard] at filled
  obtain rfl : before ++ (Output.lines parts).html = html := by
    rw [← Except.ok.injEq (ε := Fault), ← filled]
    exact (formDrawn _).symm
  refine ⟨⟨before ++ (Output.lines parts').html, readyScript (Output.lines parts').listeners,
    (Output.lines parts').calls⟩, ?_, ?_, ?_, ?_, fun noId noDestroy control mem isNamed => ?_⟩
  · unfold Renderer.form Renderer.formBy
    rw [nodesDrawn', ok_bind, standard]
    dsimp only [submitting]
    rw [formDrawn]
    rfl
  · rw [same.listeners]
  · rw [blankAll_append, blankAll_append, same.blank]
  · obtain ⟨control, inBody, shows, isControl⟩ := control_of_way standard readable nodesDrawn'
      placed textual existing (by rw [Frame.ofContext, values]) given
    refine ⟨control, ?_, shows, isControl⟩
    rw [controlsAll_append]
    exact List.mem_append_right _ inBody
  · rw [controlsAll_append] at mem
    rcases List.mem_append.mp mem with mem | mem
    · -- the inputs before the body have names without brackets
      obtain ⟨name', isNamed', noBracket⟩ := beforeNamed control mem
      rw [isNamed] at isNamed'
      obtain rfl := Option.some.inj isNamed'
      rw [named] at noBracket
      exact absurd (bracket_mem_name _ way _) noBracket
    · exact same.shows noId noDestroy control mem isNamed

theorem form_submitted_secondPhone :
    ∃ out out', addressBook.form contactForm (fresh twoPhones) = .ok out ∧
      addressBook.form contactForm
        (submitting twoPhones "contact[phones_attributes][1][number]" "555") = .ok out' ∧
      blankAll "contact[phones_attributes][1][number]" out'.html =
        blankAll "contact[phones_attributes][1][number]" out.html ∧
      ∃ control ∈ controlsAll out'.html,
        control.name? = some "contact[phones_attributes][1][number]" ∧ control.Shows "555" := by
  obtain ⟨out, drawn⟩ : ∃ out, addressBook.form contactForm (fresh twoPhones) = .ok out :=
    exists_of_isOk (by decide +kernel)
  have inRow : Placed addressBook contactForm.nodes "contact" ["phones"] "phone"
      (.input "number" .standard) :=
    (Placed.top (List.mem_cons_of_mem _ List.mem_cons_self)).row .none List.mem_cons_self
  obtain ⟨out', drawn', -, blank, ⟨control, mem, shows, of⟩, -⟩ :=
    form_submitted addressBook rfl contactForm twoPhones contactForm_readable [("phones", 1)]
      "phone" "number" .standard inRow (by decide +kernel)
      (.table [(.text "number", .text "2")]) rfl
      "contact[phones_attributes][1][number]" (by decide +kernel) "555" (by decide) out drawn
  exact ⟨out, out', drawn, drawn', blank, control, mem, of.name.trans (by decide +kernel), shows⟩

end

end Render

end Formwright
