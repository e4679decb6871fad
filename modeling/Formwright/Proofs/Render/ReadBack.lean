import Formwright.Proofs.Markup.Decoding
import Formwright.Proofs.Render.ErrorSpots
import Formwright.Proofs.Render.ScalarControls
import Formwright.Proofs.Render.Showable
import Formwright.Proofs.Render.WellFormed
import Formwright.Proofs.Value.InEffect

/-!
# Controls read back

What was put into a control can be got out of its markup: the start tag has the attributes of the
control with those of the field over them, a text area holds its text, and the options of a select
are the prompt and the choices, in order. Nothing is lost on the way, whatever characters names,
values and labels are made of.

- `shownAttrs`: the attributes that named values stand for; `spread_read`.
- `Drawing.scalarSpans`, `bare_spans`: what a scalar control says.
- `Span.choice?`, `selectMarkup_read`: the choices that a select offers.
- `controls_readBack`: the main result.
-/

namespace Formwright

open Html Outcome Template

/-! ## Attributes -/

/-- The attributes that named values stand for: every name where it is first given, with the text of
the value given last, unless that is nothing. -/
def shownAttrs (values : List (String × Value)) : List (String × String) :=
  (Value.inEffect values).filterMap fun e => if e.2.isNone then none else some (e.1, e.2.toText)

/-- No name is shown twice. -/
theorem shownAttrs_nodup (values : List (String × Value)) :
    ((shownAttrs values).map (·.1)).Nodup := by
  have names : ((shownAttrs values).map (·.1)).Sublist ((Value.inEffect values).map (·.1)) := by
    unfold shownAttrs
    induction Value.inEffect values with
    | nil => exact .slnil
    | cons e rest ih =>
      rw [List.filterMap_cons]
      cases e.2.isNone with
      | true => exact ih.cons _
      | false => exact ih.cons_cons _
  exact (Value.inEffect_nodup values).sublist names

/-- The attribute that a value stands for. -/
def valueAttr (e : String × Value) : Attr := ⟨.text e.1, [e.2.piece]⟩

theorem spreadAttrs_named {values : List (String × Value)}
    (writable : ∀ e ∈ values, e.1.toList.any isNameBreak = false) :
    spreadAttrs (Value.entriesOfNamed values) =
      .ok ((values.filter fun e => !e.2.isNone).map valueAttr) := by
  induction values with
  | nil => rfl
  | cons e rest ih =>
    obtain ⟨name, v⟩ := e
    have others := ih fun e mem => writable e (List.mem_cons_of_mem _ mem)
    have free : name.toList.any isNameBreak = false := writable _ List.mem_cons_self
    change spreadAttrs ((.text name, v) :: Value.entriesOfNamed rest) = _
    rw [spreadAttrs, others]
    cases missing : v.isNone with
    | true => simp [missing]
    | false => simp [missing, Value.string?, free, valueAttr, Value.piece, Value.toText]

theorem piece_plain {v : Value} (plain : v.isPlain = true) : v.piece = .text v.toText := by
  cases v with
  | markup s => cases plain
  | _ => rfl

/-- **Attributes are read back.** The attributes of a control, with more of them given over its own,
are read as those that are in effect. -/
theorem spread_read (attrs more : List (String × Value))
    (writable : ∀ a ∈ attrs ++ more, a.1.toList.any isNameBreak = false)
    (plain : ∀ a ∈ attrs ++ more, a.2.isPlain = true) :
    ∃ written, spreadAttrs (overlay attrs more) = .ok written ∧
      ∀ tag, (Tag.start tag (written.map Attr.written)).unescaped =
        .start tag (shownAttrs (attrs ++ more)) := by
  have table : overlay attrs more = Value.entriesOfNamed (Value.inEffect (attrs ++ more)) :=
    Value.tableOf_entriesOfNamed (attrs ++ more)
  refine ⟨_, table ▸ spreadAttrs_named fun e mem => writable e (Value.mem_of_mem_inEffect mem),
    fun tag => ?_⟩
  have texts : ∀ values : List (String × Value), (∀ e ∈ values, e.2.isPlain = true) →
      ((((values.filter fun e => !e.2.isNone).map valueAttr).map Attr.written).map fun a =>
        (Reader.unescape a.1, Reader.unescape a.2)) =
      values.filterMap fun e => if e.2.isNone then none else some (e.1, e.2.toText) := by
    intro values
    induction values with
    | nil => exact fun _ => rfl
    | cons e rest ih =>
      intro allPlain
      have others := ih fun e mem => allPlain e (List.mem_cons_of_mem _ mem)
      have own := Attr.unescape_written e.1 e.2.toText
      rw [← piece_plain (allPlain e List.mem_cons_self)] at own
      cases missing : e.2.isNone with
      | true => simpa [missing] using others
      | false =>
        simp only [List.filter_cons, missing, Bool.not_false, if_true, List.map_cons, others,
          List.filterMap_cons, Bool.false_eq_true, if_false]
        exact congrArg (· :: _) own
  exact congrArg (Tag.start tag) (texts _ fun e mem => plain e (Value.mem_of_mem_inEffect mem))

/-! ## Choices -/

/-- The choice that a tag and its text offer, if it is the tag of an option. -/
def Span.choice? (s : Span) : Option SelectOption :=
  match s.tag with
  | .start "option" attrs =>
    some ⟨(attrs.lookup "value").getD "", s.text, (attrs.lookup "selected").isSome⟩
  | _ => none

/-- The control is an input that says how long its text may be. -/
def ControlKind.hasLength : ControlKind → Bool
  | .select | .collection | .text => true
  | .boolean | .textarea | .date | .time | .datetime | .file => false

namespace Drawing

variable {d : Drawing} {desc : Descriptor} {o : FieldOptions}

/-! ## Errors -/

/-- A paragraph of an error is a tag with text, and errors begin with a tag if there are any. -/
theorem paragraphs_spans (sentences : List Piece) :
    (Reader.group (tokensAll (sentences.flatMap fun s => [errorParagraph s, lineFeed]))).1 = [] ∧
      ∀ span ∈ spansAll (sentences.flatMap fun s => [errorParagraph s, lineFeed]),
        span.tag.name = "p" := by
  induction sentences with
  | nil => exact ⟨rfl, nofun⟩
  | cons s rest ih =>
    obtain ⟨apart, paragraphs⟩ := ih
    have tokens : tokensAll ((s :: rest).flatMap fun s => [errorParagraph s, lineFeed]) =
        .tag (.start "p" [("class", "inline-errors")]) :: (s.write.toList.map .char ++
          .tag (.finish "p") :: (['\n'].map .char ++
            tokensAll (rest.flatMap fun s => [errorParagraph s, lineFeed]))) := by
      rw [List.flatMap_cons, List.cons_append, List.cons_append, tokensAll, tokensAll,
        errorParagraph, tokens_around, tokens_lineFeed]
      simp only [List.cons_append, List.append_assoc]
      rfl
    constructor
    · rw [tokens, Reader.group_tag]
    · intro span mem
      rw [spansAll, tokens] at mem
      simp only [Reader.group_tag, Reader.group_chars, List.mem_cons] at mem
      rcases mem with rfl | rfl | mem
      · rfl
      · rfl
      · exact paragraphs span mem

/-- A control is read apart from the errors after it, which say nothing but paragraphs. -/
theorem withErrors_spans (standard : d.theme = .standard) {control hs : List Html}
    (drawn : d.withErrors desc (.ok control) = .ok hs) (clean : CleanAll hs) :
    ∃ after, Reader.spans (writeAll hs) = some (spansAll control ++ after) ∧
      ∀ span ∈ after, span.tag.name = "p" := by
  obtain ⟨first, isControl, drawn⟩ := bind_eq_ok.mp drawn
  obtain ⟨errors, said, drawn⟩ := bind_eq_ok.mp drawn
  cases isControl
  cases drawn
  rw [errors_drawn standard] at said
  obtain ⟨sentences, -, rfl⟩ := exceptMap_eq_ok.mp said
  obtain ⟨apart, paragraphs⟩ := paragraphs_spans sentences
  refine ⟨_, ?_, paragraphs⟩
  rw [Reader.spans_writeAll clean, spansAll_append _ apart]

/-! ## Scalar controls -/

/-- The attributes of a scalar control that is not edited in parts, before those of the field. -/
def ownAttrs (d : Drawing) (kind : ControlKind) (desc : Descriptor) (o : FieldOptions) :
    List (String × Value) :=
  match kind with
  | .boolean => [("type", .text "checkbox"), ("id", .text desc.id), ("name", .text desc.name),
      ("value", .text "true"), ("checked", if isChecked desc.value then .text "checked" else .none)]
  | .textarea => [("id", .text desc.id), ("name", .text desc.name),
      ("placeholder", .ofText? o.prompt)]
  | .file => [("type", .text "file"), ("id", .text desc.id), ("name", .text desc.name),
      ("value", fileName desc.value)]
  | _ => [("type", .text (inputType o)), ("id", .text desc.id), ("name", .text desc.name),
      ("value", .ofText? (displayText desc.value)),
      ("maxlength", .text (toString d.config.textMaxlength)), ("placeholder", .ofText? o.prompt)]

/-- The attributes that are put over those of a control: those of the field, and then the class, but
not for a check box. -/
def furtherAttrs (kind : ControlKind) (o : FieldOptions) : List (String × Value) :=
  match kind with
  | .boolean => o.htmlOptions
  | _ => o.htmlOptions ++ [controlClass]

/-- All attributes that are given to a scalar control. -/
def givenAttrs (d : Drawing) (kind : ControlKind) (desc : Descriptor) (o : FieldOptions) :
    List (String × Value) :=
  d.ownAttrs kind desc o ++ furtherAttrs kind o

/-- What a scalar control says that is not edited in parts. The hidden input before a check box
has its name. -/
def scalarSpans (d : Drawing) (kind : ControlKind) (desc : Descriptor) (o : FieldOptions) :
    List Span :=
  let attrs := shownAttrs (d.givenAttrs kind desc o)
  match kind with
  | .boolean => [⟨.start "input" [("type", "hidden"), ("value", "false"),
        ("name", (Value.lastGiven (d.givenAttrs kind desc o) "name").toText)], "\n"⟩,
      ⟨.start "input" attrs, ""⟩]
  | .textarea => [⟨.start "textarea" attrs, (displayText desc.value).getD ""⟩,
      ⟨.finish "textarea", ""⟩]
  | _ => [⟨.start "input" attrs, ""⟩]

theorem checkboxTemplate_fill (standard : d.theme = .standard) {table : List (Value × Value)}
    {name : Value} (found : Value.named? table "name" = some name) :
    d.fill "controls/checkbox.html" [("attrs", .table table)] =
      (spreadAttrs table).map fun attrs => [
        .void "input" [⟨.text "type", [.text "hidden"]⟩, ⟨.text "value", [.text "false"]⟩,
          ⟨.text "name", [name.piece]⟩],
        lineFeed, .void "input" attrs] := by
  unfold Drawing.fill
  rw [standard, Theme.standard_fill "controls/checkbox.html" BuiltIn.checkbox
    (by simp [Template.builtIn])]
  cases spread : spreadAttrs table
  all_goals
    simp [BuiltIn.checkbox, Node.fillAll, Node.fill, fillAttrs, AttrSpec.fill, fillParts,
      Part.fill, Expr.eval, Binding.value?, Binding.pieces, BuiltIn.var, BuiltIn.lf,
      BuiltIn.fixed, BuiltIn.filled, Value.field?, found, spread, Except.map, lineFeed]

/-- The names of a scalar control can be written, and no value of it is marked up. -/
theorem givenAttrs_proper (writable : o.isWritable = true)
    (plain : ∀ a ∈ o.htmlOptions, a.2.isPlain = true) (valuePlain : desc.value.isPlain = true)
    (kind : ControlKind) : ∀ a ∈ d.givenAttrs kind desc o,
      a.1.toList.any isNameBreak = false ∧ a.2.isPlain = true := by
  have own : ∀ a ∈ d.ownAttrs kind desc o,
      a.1.toList.any isNameBreak = false ∧ a.2.isPlain = true := by
    cases kind with
    | boolean => cases checked : isChecked desc.value <;> simp [ownAttrs, isNameBreak, checked]
    | textarea => simp [ownAttrs, isNameBreak]
    | file => simp [ownAttrs, isNameBreak, fileName_plain valuePlain]
    | _ => simp [ownAttrs, isNameBreak]
  have further : ∀ a ∈ furtherAttrs kind o, a ∈ o.htmlOptions ++ [controlClass] := by
    cases kind with
    | boolean => exact fun a mem => List.mem_append_left _ mem
    | _ => exact fun a mem => mem
  intro a mem
  rcases List.mem_append.mp mem with mem | mem
  · exact own a mem
  · have listed := further a mem
    refine ⟨?_, htmlOptions_plain plain a listed⟩
    exact FieldOptions.clean_withClass writable (List.forall_mem_nil _) a listed

theorem written_length (length : (writtenNumeral d.config.textMaxlength).isOk = true) :
    writtenNumeral d.config.textMaxlength = .ok (toString d.config.textMaxlength) := by
  obtain ⟨numeral, written⟩ := exists_of_isOk length
  unfold writtenNumeral Text.numeral? at written ⊢
  split at written
  · rename_i s found
    split at found
    · cases found
      rfl
    · cases found
  · cases written

theorem textarea_spans (attrs : List Attr) {given : List (String × String)}
    (read : (Tag.start "textarea" (attrs.map Attr.written)).unescaped = .start "textarea" given)
    (text : Option String) :
    spansAll [.element "textarea" attrs (text.toList.map fun s => .piece (.text s))] =
      [⟨.start "textarea" given, text.getD ""⟩, ⟨.finish "textarea", ""⟩] := by
  cases text with
  | none => exact congrArg (fun tag => [Span.mk tag "", ⟨.finish "textarea", ""⟩]) read
  | some s =>
    have body : (some s).toList.map (fun s => Html.piece (.text s)) = [.piece (.text s)] := rfl
    rw [spansAll, body, tokensAll, tokensAll, List.append_nil, tokens_around, Reader.group_tag,
      read, Reader.group_chars]
    simp [Reader.group, Piece.write, Tag.unescaped]

theorem checkbox_spans (attrs : List Attr) {given : List (String × String)}
    (read : (Tag.start "input" (attrs.map Attr.written)).unescaped = .start "input" given)
    {name : Value} (plain : name.isPlain = true) :
    spansAll [.void "input" [⟨.text "type", [.text "hidden"]⟩, ⟨.text "value", [.text "false"]⟩,
        ⟨.text "name", [name.piece]⟩], lineFeed, .void "input" attrs] =
      [⟨.start "input" [("type", "hidden"), ("value", "false"), ("name", name.toText)], "\n"⟩,
        ⟨.start "input" given, ""⟩] := by
  have hidden : (Tag.start "input" ([⟨.text "type", [.text "hidden"]⟩,
      ⟨.text "value", [.text "false"]⟩, ⟨.text "name", [name.piece]⟩].map Attr.written)).unescaped =
        .start "input" [("type", "hidden"), ("value", "false"), ("name", name.toText)] := by
    have named := Attr.unescape_written "name" name.toText
    rw [← piece_plain plain] at named
    exact congrArg (fun a => Tag.start "input" [("type", "hidden"), ("value", "false"), a]) named
  rw [spansAll, tokensAll, tokensAll, tokensAll, tokensAll, tokens_lineFeed, tokens, tokens]
  simp only [List.cons_append, List.nil_append, Reader.group_tag, Reader.group, read, hidden]
  rfl

/-- A scalar control that is not edited in parts is drawn, and it says what it should. -/
theorem bare_spans (standard : d.theme = .standard) (writable : o.isWritable = true)
    (plain : ∀ a ∈ o.htmlOptions, a.2.isPlain = true) (valuePlain : desc.value.isPlain = true)
    {kind : ControlKind} (timeless : kind.temporal? = none)
    (length : kind.hasLength = true → (writtenNumeral d.config.textMaxlength).isOk = true)
    (today : Date) :
    ∃ hs, d.bare kind desc o today = .ok hs ∧ spansAll hs = d.scalarSpans kind desc o := by
  have proper := givenAttrs_proper (d := d) writable plain valuePlain kind
  obtain ⟨attrs, spread, read⟩ := spread_read (d.ownAttrs kind desc o) (furtherAttrs kind o)
    (fun a mem => (proper a mem).1) fun a mem => (proper a mem).2
  have void : spansAll [.void "input" attrs] =
      [⟨.start "input" (shownAttrs (d.givenAttrs kind desc o)), ""⟩] :=
    congrArg (fun tag => [Span.mk tag ""]) (read "input")
  cases kind with
  | date => cases timeless
  | time => cases timeless
  | datetime => cases timeless
  | file =>
    have drawn : d.file desc o = .ok [.void "input" attrs] :=
      (inputTemplate_fill standard _).trans (exceptMap_eq_ok.mpr ⟨attrs, spread, rfl⟩)
    exact ⟨_, drawn, void⟩
  | textarea =>
    have drawn : d.textarea desc o = .ok [.element "textarea" attrs
        ((displayText desc.value).toList.map fun s => .piece (.text s))] :=
      (textareaTemplate_fill standard _ _).trans (exceptMap_eq_ok.mpr ⟨attrs, spread, rfl⟩)
    exact ⟨_, drawn, textarea_spans attrs (read "textarea") _⟩
  | boolean =>
    have known : "name" ∈ (d.givenAttrs .boolean desc o).map (·.1) := by
      simp [givenAttrs, ownAttrs]
    have name := (proper _ (Value.lastGiven_mem known)).2
    have found := (Value.named?_tableOf (d.givenAttrs .boolean desc o) "name").trans
      (Value.lookup_lastGiven known)
    have drawn := (checkboxTemplate_fill standard found).trans
      (exceptMap_eq_ok.mpr ⟨attrs, spread, rfl⟩)
    exact ⟨_, drawn, checkbox_spans attrs (read "input") name⟩
  | _ =>
    have drawn : d.input desc o = .ok [.void "input" attrs] := by
      rw [Drawing.input, written_length (length rfl), ok_bind]
      exact (inputTemplate_fill standard _).trans (exceptMap_eq_ok.mpr ⟨attrs, spread, rfl⟩)
    exact ⟨_, drawn, void⟩

/-! ## Selects -/

/-- The choice that a prompt stands for: an empty one, which is not selected. -/
def promptChoices : Option String → List SelectOption
  | none => []
  | some s => if s == "" then [] else [⟨"", s, false⟩]

theorem promptMarkup_eq (prompt : Option String) :
    promptMarkup prompt = (promptChoices prompt).flatMap fun c => [optionMarkup c, lineFeed] := by
  cases prompt with
  | none => rfl
  | some s =>
    by_cases empty : s = ""
    · subst empty
      rfl
    · simp [promptMarkup, promptChoices, empty, optionMarkup]

/-- An option is read as the choice it was made for. -/
theorem optionMarkup_read (c : SelectOption) (rest : List Token) :
    (Reader.group ((optionMarkup c).tokens ++ rest)).2.filterMap Span.choice? =
      c :: (Reader.group rest).2.filterMap Span.choice? := by
  have tag : (Tag.start "option" ((⟨.text "value", [.text c.value]⟩ ::
      if c.selected then [⟨.text "selected", [.text "selected"]⟩] else []).map
        Attr.written)).unescaped = .start "option" (("value", c.value) ::
          if c.selected then [("selected", "selected")] else []) := by
    have value := Attr.unescape_written "value" c.value
    cases c.selected with
    | true => exact congrArg (fun a => Tag.start "option" [a, ("selected", "selected")]) value
    | false => exact congrArg (fun a => Tag.start "option" [a]) value
  have choice : Span.choice? ⟨.start "option" (("value", c.value) ::
      if c.selected then [("selected", "selected")] else []), c.label⟩ = some c := by
    obtain ⟨value, label, selected⟩ := c
    cases selected <;> rfl
  have label : Reader.unescape (String.ofList ((Piece.text c.label).write.toList ++ [])) =
      c.label := by
    rw [List.append_nil, String.ofList_toList, Piece.write, Reader.unescape_escape]
  rw [optionMarkup, tokens_around]
  simp only [List.cons_append, List.append_assoc, Reader.group_tag, Reader.group_chars,
    List.nil_append, tag, label]
  rw [List.filterMap_cons, choice]
  rfl

theorem options_read (choices : List SelectOption) (rest : List Token) :
    (Reader.group (tokensAll (choices.flatMap fun c => [optionMarkup c, lineFeed]) ++
      rest)).2.filterMap Span.choice? =
        choices ++ (Reader.group rest).2.filterMap Span.choice? := by
  induction choices with
  | nil => rfl
  | cons c others ih =>
    have tokens : tokensAll ((c :: others).flatMap fun c => [optionMarkup c, lineFeed]) ++ rest =
        (optionMarkup c).tokens ++ (.char '\n' ::
          (tokensAll (others.flatMap fun c => [optionMarkup c, lineFeed]) ++ rest)) := by
      rw [List.flatMap_cons, List.cons_append, List.cons_append, List.nil_append, tokensAll,
        tokensAll, tokens_lineFeed]
      simp only [List.cons_append, List.append_assoc, List.nil_append]
    rw [tokens, optionMarkup_read]
    exact congrArg (c :: ·) ih

theorem selectMarkup_read (attrs : List Attr) {given : List (String × String)}
    (read : (Tag.start "select" (attrs.map Attr.written)).unescaped = .start "select" given)
    (prompt : Option String) (choices : List SelectOption) :
    ∃ others, spansAll [selectMarkup attrs prompt choices] = ⟨.start "select" given, "\n"⟩ :: others ∧
      others.filterMap Span.choice? = promptChoices prompt ++ choices := by
  have body : (lineFeed :: promptMarkup prompt ++
      choices.flatMap fun c => [optionMarkup c, lineFeed]) = lineFeed ::
        (promptChoices prompt ++ choices).flatMap fun c => [optionMarkup c, lineFeed] := by
    rw [promptMarkup_eq, List.flatMap_append]
    rfl
  have options := options_read (promptChoices prompt ++ choices) [.tag (.finish "select")]
  -- the first option, or else the end of the select, starts with a tag
  have apart : (Reader.group (tokensAll ((promptChoices prompt ++ choices).flatMap fun c =>
      [optionMarkup c, lineFeed]) ++ [.tag (.finish "select")])).1 = [] := by
    cases promptChoices prompt ++ choices with
    | nil => rfl
    | cons c others => rfl
  refine ⟨_, ?_, options.trans (List.append_nil _)⟩
  rw [spansAll, selectMarkup, body, tokensAll, tokensAll, List.append_nil, tokens, tokensAll,
    tokens_lineFeed]
  simp only [List.cons_append, List.nil_append, Reader.group, read, apart]
  rfl

/-- All attributes that are given to a select. -/
def selectAttrs (desc : Descriptor) (o : FieldOptions) : List (String × Value) :=
  [("id", .text desc.id), ("name", .text desc.name)] ++ (o.htmlOptions ++ [controlClass])

theorem selectAttrs_proper (desc : Descriptor) (writable : o.isWritable = true)
    (plain : ∀ a ∈ o.htmlOptions, a.2.isPlain = true) : ∀ a ∈ selectAttrs desc o,
      a.1.toList.any isNameBreak = false ∧ a.2.isPlain = true := by
  have own : ∀ a ∈ [("id", Value.text desc.id), ("name", .text desc.name)],
      a.2.isPlain = true := by simp
  intro a mem
  refine ⟨FieldOptions.clean_withClass writable (by simp [isNameBreak]) a mem, ?_⟩
  rcases List.mem_append.mp mem with mem | mem
  · exact own a mem
  · exact htmlOptions_plain plain a mem

/-! ## Controls with their errors -/

/-- Whatever is written of a control is plain and can be written, and its errors have sentences. -/
structure IsPlain (d : Drawing) (desc : Descriptor) (o : FieldOptions) : Prop where
  options : ∀ a ∈ o.htmlOptions, a.2.isPlain = true
  value : desc.value.isPlain = true
  errors : ∀ es, desc.errors = some es → Value.arePlain es = true
  shows : d.ShowsErrors desc.errors
  numbers : desc.isShowable = true
  optionNumbers : o.isShowable = true

theorem scalar_readBack (standard : d.theme = .standard) (writable : o.isWritable = true)
    (plain : d.IsPlain desc o) {kind : ControlKind} (timeless : kind.temporal? = none)
    (length : kind.hasLength = true → (writtenNumeral d.config.textMaxlength).isOk = true)
    (today : Date) :
    ∃ hs after, d.scalar kind desc o today = .ok hs ∧
      Reader.spans (writeAll hs) = some (d.scalarSpans kind desc o ++ after) ∧
      ∀ span ∈ after, span.tag.name = "p" := by
  obtain ⟨control, drawn, said⟩ :=
    bare_spans standard writable plain.options plain.value timeless length today
  obtain ⟨errors, shown⟩ := errors_total plain.shows
  have whole : d.withErrors desc (.ok control) = .ok (control ++ errors) := by
    rw [withErrors, shown]
    rfl
  have clean : CleanAll (control ++ errors) := by
    refine withErrors_clean standard plain.errors (fun hs isControl => ?_) whole
    cases isControl
    exact bare_clean standard plain.value plain.options drawn
  obtain ⟨after, read, paragraphs⟩ := withErrors_spans standard whole clean
  refine ⟨_, after, ?_, said ▸ read, paragraphs⟩
  rw [scalar, drawn, whole]

theorem select_readBack (standard : d.theme = .standard) (writable : o.isWritable = true)
    (plain : d.IsPlain desc o) (choices : List SelectOption) :
    ∃ hs others, d.select desc choices o = .ok hs ∧
      Reader.spans (writeAll hs) =
        some (⟨.start "select" (shownAttrs (selectAttrs desc o)), "\n"⟩ :: others) ∧
      others.filterMap Span.choice? = promptChoices o.prompt ++ choices := by
  have proper := selectAttrs_proper desc writable plain.options
  obtain ⟨attrs, spread, read⟩ := spread_read [("id", .text desc.id), ("name", .text desc.name)]
    (o.htmlOptions ++ [controlClass]) (fun a mem => (proper a mem).1) fun a mem => (proper a mem).2
  obtain ⟨hs, whole⟩ := select_total standard writable plain.shows choices
  have clean := select_clean standard plain.errors plain.options whole
  obtain ⟨options, said, offered⟩ :=
    selectMarkup_read attrs (read "select") o.prompt choices
  have drawn := whole
  rw [select, selectTemplate_fill standard, spread] at drawn
  obtain ⟨after, shown, paragraphs⟩ := withErrors_spans standard drawn clean
  refine ⟨hs, options ++ after, whole, ?_, ?_⟩
  · rw [shown, said]
    rfl
  · have noOption : after.filterMap Span.choice? = [] := by
      refine List.filterMap_eq_nil_iff.mpr fun span mem => ?_
      have isParagraph := paragraphs span mem
      obtain ⟨tag, text⟩ := span
      cases tag with
      | finish name => rfl
      | start name attrs =>
        cases isParagraph
        rfl
    rw [List.filterMap_append, offered, noOption, List.append_nil]

/-- **Controls are read back.** Controls with nothing marked up beforehand are drawn, and their
markup is read as what they were made of: a scalar control as its tags with the attributes in
effect, none of them twice, and a text area with its text; a select as its tag with the attributes
in effect, with the prompt and the choices as its options, in order. So selects of different choices
have different markups. Paragraphs of errors may follow. An input says how long its text may be, so
that length must be a number that can be written. -/
theorem controls_readBack (d : Drawing) (standard : d.theme = .standard) (desc : Descriptor)
    (o : FieldOptions) (writable : o.isWritable = true) (plain : d.IsPlain desc o) :
    (∀ kind today, kind.temporal? = none →
      (kind.hasLength = true → (writtenNumeral d.config.textMaxlength).isOk = true) →
      ∃ hs after, d.scalar kind desc o today = .ok hs ∧
        Reader.spans (writeAll hs) = some (d.scalarSpans kind desc o ++ after) ∧
        ∀ span ∈ after, span.tag.name = "p") ∧
    (∀ choices, ∃ hs others, d.select desc choices o = .ok hs ∧
      Reader.spans (writeAll hs) =
        some (⟨.start "select" (shownAttrs (selectAttrs desc o)), "\n"⟩ :: others) ∧
      others.filterMap Span.choice? = promptChoices o.prompt ++ choices) ∧
    (∀ values, ((shownAttrs values).map (·.1)).Nodup) ∧
    ∀ choices choices' hs hs', d.select desc choices o = .ok hs →
      d.select desc choices' o = .ok hs' → writeAll hs = writeAll hs' → choices = choices' := by
  refine ⟨fun kind today timeless length =>
    scalar_readBack standard writable plain timeless length today,
    select_readBack standard writable plain, shownAttrs_nodup, ?_⟩
  intro choices choices' hs hs' drawn drawn' same
  obtain ⟨_, others, isDrawn, read, offered⟩ := select_readBack standard writable plain choices
  obtain ⟨_, others', isDrawn', read', offered'⟩ := select_readBack standard writable plain choices'
  rw [drawn] at isDrawn
  rw [drawn'] at isDrawn'
  cases isDrawn
  cases isDrawn'
  rw [same, read'] at read
  cases read
  rw [offered] at offered'
  exact List.append_cancel_left offered'

/-- A text with every character that has to be escaped, and with references already in it. -/
def hostileText : String := "</textarea>&amp;&lt;\"'&#34;\n"

/-- A control whose id, name and value are such texts. -/
def hostileDescriptor : Descriptor :=
  ⟨"\"id\"", "a&b[c]", .text hostileText, some [.text "unique", .text "<p>"], false, true, none⟩

/-- Options that rename a control, drop its id and add an attribute of a strange name. -/
def hostileOptions : FieldOptions :=
  { FieldOptions.standard with
    prompt := some "<Pick> & go"
    htmlOptions := [("id", .none), ("data-<'&", .text hostileText), ("class", .text "mine"),
      ("name", .int 5)] }

theorem controls_readBack_hostile :
    let d := Render.Renderer.addressBook.drawing
    let choices : List SelectOption := [⟨hostileText, "\" selected=\"", true⟩, ⟨"&quot;", "", false⟩]
    hostileOptions.isWritable = true ∧ d.IsPlain hostileDescriptor hostileOptions ∧
    (∃ hs after, d.scalar .textarea hostileDescriptor hostileOptions .first = .ok hs ∧
      Reader.spans (writeAll hs) = some (⟨.start "textarea" [("name", "5"),
        ("placeholder", "<Pick> & go"), ("data-<'&", hostileText), ("class", "form-control")],
        hostileText⟩ :: ⟨.finish "textarea", ""⟩ :: after)) ∧
    (∃ hs others, d.select hostileDescriptor choices hostileOptions = .ok hs ∧
      Reader.spans (writeAll hs) = some (⟨.start "select" [("name", "5"),
        ("data-<'&", hostileText), ("class", "form-control")], "\n"⟩ :: others) ∧
      others.filterMap Span.choice? = ⟨"", "<Pick> & go", false⟩ :: choices) := by
  intro d choices
  have shows : [Value.text "unique", .text "<p>"].all d.showsError = true := by decide +kernel
  have plain : d.IsPlain hostileDescriptor hostileOptions :=
    ⟨by decide, rfl, by rintro es ⟨⟩; rfl, List.all_eq_true.mp shows, rfl, by decide +kernel⟩
  obtain ⟨scalars, selects, -⟩ :=
    controls_readBack d rfl hostileDescriptor hostileOptions (by decide) plain
  obtain ⟨hs, after, drawn, read, -⟩ := scalars .textarea .first rfl nofun
  refine ⟨by decide, plain, ⟨hs, after, drawn, read⟩, ?_⟩
  exact selects choices

end Drawing

end Formwright
