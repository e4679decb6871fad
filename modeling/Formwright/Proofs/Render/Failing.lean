import Formwright.Proofs.Markup.Failing
import Formwright.Proofs.Render.ErrorSpots

/-!
# When drawing a control fails

A control fails for what its declaration and the schema say: a field or a model is not known, or an
attribute that is set by its options has a name that cannot be written. The attributes of the
control itself can always be written, so the value that is shown, its id, its name and the choices
that are chosen make no difference. This holds for all controls but those of dates and times, which
may fail to read a value.

- `overlay_ends`: the attributes of a control.
- `Drawing.showsErrorsOf`, `errors_total`: errors that can be shown.
- `bare_ends`, `select_ends`, `many_ends`: two controls of one declaration.
- `bare_fails`, `select_fails`: the faults of a control that is drawn with the built-in templates.
-/

namespace Formwright

open Outcome Template

/-! ## Attributes -/

/-- An attribute of this name cannot be written. -/
def isBroken (key : Value) : Bool := key.string?.elim true (·.toList.any isNameBreak)

theorem spreadAttrs_broken (entries : List (Value × Value)) :
    SameEnd (spreadAttrs entries) (spreadAttrs (entries.filter fun e => isBroken e.1)) := by
  induction entries with
  | nil => exact .ok trivial
  | cons e rest ih =>
    obtain ⟨key, v⟩ := e
    cases broken : isBroken key with
    | true =>
      simp only [List.filter_cons, broken, if_true]
      rw [spreadAttrs, spreadAttrs]
      split
      · exact ih
      · split
        · exact .error _
        · split
          · exact .error _
          · exact ih.thenReturn
    | false =>
      simp only [List.filter_cons, broken]
      refine SameEnd.trans ?_ ih
      cases named : key.string? with
      | none => simp [isBroken, named] at broken
      | some name =>
        simp only [isBroken, named, Option.elim_some] at broken
        rw [spreadAttrs]
        simp only [named, broken]
        split
        · exact .same _
        · exact SameEnd.bind_total fun attrs => ⟨_, rfl⟩

/-- The keys are texts. -/
def AreNamed (entries : List (Value × Value)) : Prop := ∀ e ∈ entries, ∃ name, e.1 = .text name

theorem put_broken {name : String} {v : Value} {entries : List (Value × Value)}
    (named : AreNamed entries) :
    (Value.put (.text name) v entries).filter (fun e => isBroken e.1) =
      if isBroken (.text name) then
        Value.put (.text name) v (entries.filter fun e => isBroken e.1)
      else entries.filter fun e => isBroken e.1 := by
  induction entries with
  | nil =>
    cases broken : isBroken (.text name) with
    | true => simp [Value.put, broken]
    | false => simp [Value.put, broken]
  | cons e rest ih =>
    obtain ⟨key, w⟩ := e
    obtain ⟨other, rfl⟩ := named _ List.mem_cons_self
    have rest_eq := ih fun e mem => named e (List.mem_cons_of_mem _ mem)
    rw [Value.put]
    by_cases same : other = name
    · subst same
      cases broken : isBroken (.text other) with
      | true => simp [broken, Value.put]
      | false => simp [broken]
    · rw [Value.same_text, beq_eq_false_iff_ne.mpr same]
      simp only [Bool.false_eq_true, if_false]
      cases broken : isBroken (.text other) with
      | true =>
        simp only [List.filter_cons, broken, if_true, rest_eq]
        split
        · simp [Value.put, same]
        · rfl
      | false =>
        simp only [List.filter_cons, broken, Bool.false_eq_true, if_false]
        exact rest_eq

theorem AreNamed.put {entries : List (Value × Value)} (named : AreNamed entries) (name : String)
    (v : Value) : AreNamed (Value.put (.text name) v entries) := by
  intro e mem
  rcases Value.key_of_mem_put mem with same | ⟨e', mem', same⟩
  · exact ⟨name, same⟩
  · obtain ⟨other, isText⟩ := named e' mem'
    exact ⟨other, same.symm.trans isText⟩

/-- What a table says under broken names was put there under broken names. -/
theorem tableOf_broken (values : List (String × Value)) :
    (Value.tableOf (Value.entriesOfNamed values)).filter (fun e => isBroken e.1) =
      Value.tableOf (Value.entriesOfNamed (values.filter fun a => isBroken (.text a.1))) := by
  suffices onto : ∀ before : List (Value × Value), AreNamed before →
      ((Value.entriesOfNamed values).foldl (fun table e => Value.put e.1 e.2 table) before).filter
          (fun e => isBroken e.1) =
        (Value.entriesOfNamed (values.filter fun a => isBroken (.text a.1))).foldl
          (fun table e => Value.put e.1 e.2 table) (before.filter fun e => isBroken e.1) from
    onto [] (fun e mem => by cases mem)
  induction values with
  | nil => exact fun before _ => rfl
  | cons a rest ih =>
    intro before named
    have step := ih (Value.put (.text a.1) a.2 before) (named.put a.1 a.2)
    rw [put_broken named] at step
    change ((Value.entriesOfNamed rest).foldl _ (Value.put (.text a.1) a.2 before)).filter _ = _
    rw [step]
    cases broken : isBroken (.text a.1) with
    | true =>
      rw [List.filter_cons_of_pos (by simpa using broken)]
      rfl
    | false =>
      rw [List.filter_cons_of_neg (by simp [broken])]
      rfl

/-- The names of the attributes that controls have of their own. -/
def ownNames : List String :=
  ["type", "id", "name", "value", "checked", "maxlength", "placeholder"]

theorem ownNames_writable : ∀ name ∈ ownNames, isBroken (.text name) = false := by
  decide +kernel

/-- **Attributes of a control.** Whether they can be written depends on the options of the field
alone. -/
theorem overlay_ends {attrs : List (String × Value)} (more : List (String × Value))
    (own : ∀ a ∈ attrs, a.1 ∈ ownNames) :
    SameEnd (spreadAttrs (overlay attrs more)) (spreadAttrs (overlay [] more)) := by
  have dropped : (attrs.filter fun a => isBroken (.text a.1)) = [] := by
    rw [List.filter_eq_nil_iff]
    intro a mem
    simp [ownNames_writable a.1 (own a mem)]
  have same : (overlay attrs more).filter (fun e => isBroken e.1) =
      (overlay [] more).filter fun e => isBroken e.1 := by
    change (Value.tableOf (Value.entriesOfNamed (attrs ++ more))).filter _ =
      (Value.tableOf (Value.entriesOfNamed ([] ++ more))).filter _
    rw [tableOf_broken, tableOf_broken, List.filter_append, dropped, List.filter_append,
      List.filter_nil]
  have ends := spreadAttrs_broken (overlay attrs more)
  rw [same] at ends
  exact ends.trans (spreadAttrs_broken (overlay [] more)).symm

/-! ## Errors -/

namespace Drawing

variable {d : Drawing} {desc desc' : Descriptor} {o : FieldOptions}

/-- The template of errors can be filled. -/
def drawsErrors (d : Drawing) : Bool :=
  (d.fill "controls/errors.html" [("errors", .list [])]).isOk

/-- The error can be put in words, and there is a template to show it with. -/
def showsError (d : Drawing) (e : Value) : Bool := (Errors.sentence e).isOk && d.drawsErrors

/-- Every recorded error can be shown. -/
def showsErrorsOf (d : Drawing) (c : Context) : Bool :=
  (c.errors.getD []).all fun e => d.showsError e.2

/-- The errors of a control can be shown. -/
def ShowsErrors (d : Drawing) (errors : Option (List Value)) : Prop :=
  ∀ e ∈ errors.getD [], d.showsError e = true

theorem showsErrors_select {c : Context} (shows : d.showsErrorsOf c = true) (key : String) :
    d.ShowsErrors (Errors.select c.errors key) := by
  cases recorded : c.errors with
  | none => simp [ShowsErrors, Errors.select]
  | some pairs =>
    intro e mem
    simp only [Errors.select, Option.map_some, Option.getD_some] at mem
    obtain ⟨pair, kept, rfl⟩ := List.mem_map.mp mem
    rw [showsErrorsOf, recorded] at shows
    exact List.all_eq_true.mp shows pair (List.mem_filter.mp kept).1

theorem errors_furnished {errors : List Value}
    (worded : ∀ e ∈ errors, ∃ sentence, Errors.sentence e = .ok sentence) :
    Furnished [("errors", .value (.list errors))] where
  options := ⟨[], rfl⟩
  controls := rfl
  errors := by
    obtain ⟨sentences, said⟩ := mapM_total worded
    have evaluated := sentences_eval errors
    rw [show errors.mapM Errors.sentence = .ok sentences from said] at evaluated
    exact ⟨_, evaluated⟩

/-- Errors that can be shown are drawn. -/
theorem errors_total {errors : Option (List Value)} (shows : d.ShowsErrors errors) :
    ∃ hs, d.errors errors = .ok hs := by
  unfold Drawing.errors
  split
  · exact ⟨[], rfl⟩
  · exact ⟨[], rfl⟩
  · rename_i errors notEmpty
    have each : ∀ e ∈ errors, (Errors.sentence e).isOk = true ∧ d.drawsErrors = true := by
      intro e mem
      exact Bool.and_eq_true_iff.mp (shows e mem)
    have worded : ∀ e ∈ errors, ∃ sentence, Errors.sentence e = .ok sentence := by
      intro e mem
      exact exists_of_isOk (each e mem).1
    have alike : Interchangeable [("errors", .value (.list []))]
        [("errors", .value (.list errors))] :=
      ⟨errors_furnished (by simp), errors_furnished worded, .missing rfl rfl⟩
    obtain ⟨first, mem⟩ := List.exists_mem_of_ne_nil errors notEmpty
    obtain ⟨hs, drawn⟩ := exists_of_isOk (each first mem).2
    obtain ⟨hs', drawn', -⟩ := (d.theme.fill_ends _ alike).exists_of_ok drawn
    exact ⟨hs', drawn'⟩

theorem withErrors_ends (shows : d.ShowsErrors desc.errors)
    (shows' : d.ShowsErrors desc'.errors) {body body' : Except Fault (List Html)}
    (ends : SameEnd body body') : SameEnd (d.withErrors desc body) (d.withErrors desc' body') := by
  have errors : SameEnd (d.errors desc.errors) (d.errors desc'.errors) :=
    .of_total (errors_total shows) (errors_total shows')
  refine ends.andThen fun _ _ => ?_
  exact errors.thenReturn

/-! ## Controls -/

/-- A control ends alike whatever its own attributes are. -/
theorem attrs_ends (d : Drawing) (template : String) {attrs attrs' : List (String × Value)}
    (more : List (String × Value)) {rest rest' : List (String × Value)}
    (own : ∀ a ∈ attrs, a.1 ∈ ownNames) (own' : ∀ a ∈ attrs', a.1 ∈ ownNames)
    (furnished : Furnished (rest.map fun v => (v.1, .value v.2)))
    (furnished' : Furnished (rest'.map fun v => (v.1, .value v.2))) :
    SameEnd (d.fill template (("attrs", .table (overlay attrs more)) :: rest))
      (d.fill template (("attrs", .table (overlay attrs' more)) :: rest')) := by
  have ends : SameEnd (spreadAttrs (overlay attrs more)) (spreadAttrs (overlay attrs' more)) :=
    (overlay_ends more own).trans (overlay_ends more own').symm
  have free : "attrs" ∉ givenNames := by decide
  exact d.theme.fill_ends template
    ⟨furnished.cons free _, furnished'.cons free _, .tables rfl rfl ends⟩

theorem bare_ends {kind : ControlKind} (timeless : kind.temporal? = none) (today today' : Date) :
    SameEnd (d.bare kind desc o today) (d.bare kind desc' o today') := by
  have input : SameEnd (d.input desc o) (d.input desc' o) :=
    .bind_same fun _ _ => d.attrs_ends _ _ (by simp [ownNames]) (by simp [ownNames]) .nil .nil
  cases kind with
  | boolean => exact d.attrs_ends _ _ (by simp [ownNames]) (by simp [ownNames]) .nil .nil
  | textarea =>
    exact d.attrs_ends _ _ (by simp [ownNames]) (by simp [ownNames]) (.of_free rfl) (.of_free rfl)
  | file => exact d.attrs_ends _ _ (by simp [ownNames]) (by simp [ownNames]) .nil .nil
  | date => cases timeless
  | time => cases timeless
  | datetime => cases timeless
  | select => exact input
  | collection => exact input
  | text => exact input

theorem choices_furnished (choices : List SelectOption) (prompt : Option String) :
    Furnished [("options", .value (.list (choices.map SelectOption.toValue))),
      ("prompt", .value (.ofText? prompt))] where
  options := ⟨_, rfl⟩
  controls := rfl
  errors := ⟨_, rfl⟩

theorem select_ends (shows : d.ShowsErrors desc.errors)
    (shows' : d.ShowsErrors desc'.errors) (choices choices' : List SelectOption) :
    SameEnd (d.select desc choices o) (d.select desc' choices' o) := by
  refine withErrors_ends shows shows' ?_
  exact d.attrs_ends _ _ (by simp [ownNames]) (by simp [ownNames]) (choices_furnished _ _)
    (choices_furnished _ _)

theorem literalOption_total {item : Value} (literal : isLiteralItem item = true) :
    ∃ parts, literalOption item = .ok parts := by
  have pair : ∀ items : List Value, (items.length == 2) = true →
      ∃ first second, items = [first, second] := by
    intro items two
    exact List.length_eq_two.mp (beq_iff_eq.mp two)
  cases item with
  | tuple items =>
    obtain ⟨first, second, rfl⟩ := pair items literal
    exact ⟨_, rfl⟩
  | list items =>
    obtain ⟨first, second, rfl⟩ := pair items literal
    exact ⟨_, rfl⟩
  | _ => exact ⟨_, rfl⟩

theorem literalOptions_total {items : List Value} (literal : isLiteralCollection items = true) :
    ∀ item ∈ items, ∃ parts, literalOption item = .ok parts := by
  rw [isLiteralCollection, Bool.and_eq_true] at literal
  exact fun item mem => literalOption_total (List.all_eq_true.mp literal.2 item mem)

theorem literalChoices_total {items : List Value} (literal : isLiteralCollection items = true) :
    ∃ choices, literalChoices desc items = .ok choices := by
  apply mapM_total
  intro item mem
  obtain ⟨parts, read⟩ := literalOptions_total literal item mem
  exact ⟨_, by rw [read]; rfl⟩

/-- The texts of the members of a collection can be read. -/
theorem memberTexts_total (items : List Value) (identity : Value → Value) :
    ∃ texts, items.mapM (memberText (isLiteralCollection items) o identity) = .ok texts := by
  apply mapM_total
  intro item mem
  unfold memberText
  split
  · rename_i literal
    exact literalOptions_total literal item mem
  · exact ⟨_, rfl⟩

theorem members_furnished (id name style : Value) (options : List Value) :
    Furnished [("id", .value id), ("name", .value name), ("style", .value style),
      ("options", .value (.list options))] where
  options := ⟨_, rfl⟩
  controls := rfl
  errors := ⟨_, rfl⟩

theorem many_ends (shows : d.ShowsErrors desc.errors)
    (shows' : d.ShowsErrors desc'.errors) (items : List Value) (identity : Value → Value)
    (selected selected' : List Value) :
    SameEnd (d.many desc items o identity selected) (d.many desc' items o identity selected') := by
  refine .bind_same fun texts _ => ?_
  refine withErrors_ends shows shows' ?_
  exact d.theme.fill_ends _ ⟨members_furnished _ _ _ _, members_furnished _ _ _ _, .missing rfl rfl⟩

end Drawing

/-! ## Faults of controls -/

/-- The fault is one of the form and the schema: a model or a field that is not known, a relation
that is no has-many association, rows that cannot be compiled, or an attribute that cannot be
written. -/
def Fault.isStatic : Fault → Bool
  | .unknownModel _ | .unknownField _ _ | .notHasMany _ _ | .form _ _ _ | .attributeName _ => true
  | _ => false

/-- The computation does not fail but for the form and the schema. -/
abbrev FailsStatically {α : Type} (x : Except Fault α) : Prop :=
  FailsWith (fun e => e.isStatic = true) x

/-- A model or a field is not known. -/
def Fault.isUnknown : Fault → Bool
  | .unknownModel _ | .unknownField _ _ => true
  | _ => false

theorem Fault.isStatic_of_isUnknown {e : Fault} (unknown : e.isUnknown = true) :
    e.isStatic = true := by
  cases e with
  | unknownModel model => rfl
  | unknownField field model => rfl
  | _ => cases unknown

/-- The misuse of a value that a computation ended with. -/
def Outcome.misuse? {α : Type} : Except Fault α → Option Misuse
  | .error (.misuse m) => some m
  | _ => none

theorem Outcome.misuse?_eq_some {α : Type} {x : Except Fault α} {m : Misuse} :
    misuse? x = some m ↔ x = .error (.misuse m) := by
  constructor
  · intro found
    unfold misuse? at found
    split at found
    · cases found
      rfl
    · cases found
  · rintro rfl
    rfl

/-- The computation does not fail but for a name that is not known. -/
abbrev FailsUnknown {α : Type} (x : Except Fault α) : Prop :=
  FailsWith (fun e => e.isUnknown = true) x

namespace Schema

variable (s : Schema) (model field : String)

theorem model_unknown : FailsUnknown (s.model model) := by
  unfold Schema.model
  split
  · exact .ok _
  · exact .error rfl

theorem fieldType_unknown : FailsUnknown (s.fieldType model field) := by
  refine (s.model_unknown model).bind fun m _ => ?_
  unfold Model.fieldType
  split
  · exact .ok _
  · split
    · exact .ok _
    · exact .error rfl

theorem association?_unknown : FailsUnknown (s.association? model field) :=
  (s.model_unknown model).thenReturn

theorem storageKey_unknown : FailsUnknown (s.storageKey model field) :=
  (s.association?_unknown model field).thenReturn

end Schema

theorem spreadAttrs_fails {entries : List (Value × Value)} (named : AreNamed entries) :
    FailsStatically (spreadAttrs entries) := by
  induction entries with
  | nil => exact .ok _
  | cons e rest ih =>
    obtain ⟨key, v⟩ := e
    obtain ⟨name, rfl⟩ := named _ List.mem_cons_self
    have rest_fails := ih fun e mem => named e (List.mem_cons_of_mem _ mem)
    rw [spreadAttrs]
    split
    · exact rest_fails
    · simp only [Value.string?]
      split
      · exact .error rfl
      · exact rest_fails.thenReturn

theorem overlay_fails (attrs more : List (String × Value)) :
    FailsStatically (spreadAttrs (overlay attrs more)) := by
  refine spreadAttrs_fails fun e mem => ?_
  obtain ⟨e', mem', same⟩ := Value.key_of_mem_tableOf mem
  obtain ⟨a, -, rfl⟩ := List.mem_map.mp mem'
  exact ⟨a.1, same.symm⟩

namespace Drawing

variable {d : Drawing} {desc : Descriptor} {o : FieldOptions}

theorem attrs_fails (standard : d.theme = .standard) (template : String)
    (body : List Template.Node) (listed : (template, body) ∈ Template.builtIn)
    (attrs more rest : List (String × Value))
    (furnished : Furnished (rest.map fun v => (v.1, .value v.2))) :
    FailsStatically (d.fill template (("attrs", .table (overlay attrs more)) :: rest)) := by
  have free : "attrs" ∉ givenNames := by decide
  unfold Drawing.fill
  rw [standard]
  exact Theme.standard_fails template body listed (furnished.cons free _) rfl
    (overlay_fails attrs more)

theorem withErrors_fails {P : Fault → Prop} (shows : d.ShowsErrors desc.errors)
    {body : Except Fault (List Html)} (h : FailsWith P body) :
    FailsWith P (d.withErrors desc body) := by
  refine h.bind fun _ _ => ?_
  refine (FailsWith.of_total ?_).thenReturn
  exact errors_total shows

theorem bare_fails (standard : d.theme = .standard)
    (length : (writtenNumeral d.config.textMaxlength).isOk = true) {kind : ControlKind}
    (timeless : kind.temporal? = none) (today : Date) :
    FailsStatically (d.bare kind desc o today) := by
  have inputBody : ("controls/input.html", BuiltIn.input) ∈ Template.builtIn := by
    simp [Template.builtIn]
  have input : FailsStatically (d.input desc o) := by
    refine (FailsWith.of_total (exists_of_isOk length)).bind fun _ _ => ?_
    exact attrs_fails standard _ _ inputBody _ _ _ .nil
  cases kind with
  | boolean =>
    exact attrs_fails standard _ BuiltIn.checkbox (by simp [Template.builtIn]) _ _ _ .nil
  | textarea =>
    exact attrs_fails standard _ BuiltIn.textarea (by simp [Template.builtIn]) _ _ _ (.of_free rfl)
  | file => exact attrs_fails standard _ _ inputBody _ _ _ .nil
  | date => cases timeless
  | time => cases timeless
  | datetime => cases timeless
  | select => exact input
  | collection => exact input
  | text => exact input

theorem select_fails (standard : d.theme = .standard) (shows : d.ShowsErrors desc.errors)
    (choices : List SelectOption) : FailsStatically (d.select desc choices o) := by
  refine withErrors_fails shows ?_
  exact attrs_fails standard _ BuiltIn.select (by simp [Template.builtIn]) _ _ _
    (choices_furnished _ _)

theorem many_total (standard : d.theme = .standard) (shows : d.ShowsErrors desc.errors)
    (items : List Value) (identity : Value → Value) (selected : List Value) :
    ∃ hs, d.many desc items o identity selected = .ok hs := by
  obtain ⟨texts, read⟩ := memberTexts_total (o := o) items identity
  obtain ⟨errors, said⟩ := errors_total shows
  refine ⟨manyMarkup desc (o.style.getD .select) (selected.map Value.toText) texts ++ errors, ?_⟩
  rw [many_eq standard, read, ok_bind, withErrors, said]
  rfl

end Drawing

end Formwright
