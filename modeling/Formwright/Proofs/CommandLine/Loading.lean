import Formwright.Config.File
import Formwright.FormFile
import Formwright.Proofs.Form.ItemFaults
import Formwright.Proofs.Value.Named

/-!
# Files that cannot be loaded

A file that cannot be loaded is reported, with two exceptions. A numeral may have too many digits,
and a value may be of a kind that nobody has looked for: the section of a configuration may be no
table, its directory of templates no text, the errors of a form file no table, the options of an
item no table either, or names in them taken.

- `Config.section?`, `Config.Misfits`, `Config.Escapes`: what is not reported of a configuration.
- `FormFile.Escapes`: what is not reported of a form file.
- `Config.ofToml_cases`, `FormFile.ofToml_cases`: everything else is.
-/

namespace Formwright

open Outcome

/-! ## Configurations -/

namespace Value

/-- Every key is a text. -/
def areTexts (entries : List (Value × Value)) : Bool := entries.all (·.1.string?.isSome)

/-- Putting a value under a text makes no difference to whether the keys are texts. -/
theorem areTexts_put (name : String) (v : Value) (entries : List (Value × Value)) :
    areTexts (put (.text name) v entries) = areTexts entries := by
  induction entries with
  | nil => rfl
  | cons e rest ih =>
    unfold put
    split
    · rfl
    · rw [areTexts, List.all_cons, ← areTexts, ih]
      rfl

/-- Entries can be named if and only if every key is a text. -/
theorem byName_texts (entries : List (Value × Value)) :
    (areTexts entries = true ∧ ∃ named, byName entries = .ok named) ∨
    (areTexts entries = false ∧ byName entries = .error (.misuse .kind)) := by
  have texts : entries.all (Form.Items.isOption []) = areTexts entries := by
    rw [areTexts]
    congr 1
    funext e
    unfold Form.Items.isOption
    cases e.1.string? with
    | none => rfl
    | some name => rfl
  rcases Form.Items.byName_cases [] entries with ⟨refused, all⟩ | ⟨named, read, any⟩
  · exact .inr ⟨texts.symm.trans all, refused⟩
  · left
    refine ⟨?_, named, read⟩
    have noneTaken : (named.any fun e => ([] : List String).contains e.1) = false := by simp
    rw [← texts, ← Bool.not_eq_false', ← any]
    exact noneTaken

end Value

namespace Config

/-- The value that configures forms in a file, if there is one. -/
def section? (file : List (Value × Value)) : Option Value :=
  match Value.named? file "forms" with
  | some forms => some forms
  | none =>
    match Value.named? file "tool" with
    | some (.table tools) => Value.named? tools "admin_forms"
    | _ => none

/-- A directory of templates that is given, but not by a text. -/
def isNoDirectory (v : Value) : Bool := v.isTrue && v.string?.isNone

/-- A value that cannot even be checked as a configuration: it has no entries, the directory of
templates is no text, or a key is none. -/
def Misfits (v : Value) : Prop :=
  match Value.entriesOf v with
  | .error _ => True
  | .ok entries =>
    (Value.named? entries "templates_dir").any isNoDirectory = true ∨
      Value.areTexts entries = false

/-- The text of a configuration has a numeral that is too long, or a section that cannot be
checked. -/
def Escapes (source : String) : Prop :=
  Toml.parse source = .error .longNumeral ∨
  ∃ file v, Toml.parse source = .ok file ∧ section? file = some v ∧ Misfits v

theorem entriesIn_section (file : List (Value × Value)) :
    entriesIn file = (section? file).elim (.ok []) Value.entriesOf := by
  unfold entriesIn section?
  cases Value.named? file "forms" with
  | some forms => rfl
  | none =>
    cases Value.named? file "tool" with
    | none => rfl
    | some tool =>
      cases tool with
      | table tools =>
        simp only
        cases Value.named? tools "admin_forms" with
        | none => rfl
        | some forms => rfl
      | _ => rfl

theorem placeTemplates_cases (path : Path) (entries : List (Value × Value)) :
    ((Value.named? entries "templates_dir").any isNoDirectory = true ∧
      placeTemplates path entries = .error (.misuse .kind)) ∨
    ((Value.named? entries "templates_dir").any isNoDirectory = false ∧
      ∃ placed, placeTemplates path entries = .ok placed ∧
        Value.areTexts placed = Value.areTexts entries) := by
  unfold placeTemplates
  cases Value.named? entries "templates_dir" with
  | none => exact .inr ⟨rfl, entries, rfl, rfl⟩
  | some v =>
    simp only [Option.any_some, isNoDirectory]
    cases given : v.isTrue with
    | false => exact .inr ⟨rfl, entries, rfl, rfl⟩
    | true =>
      cases v.string? with
      | none => exact .inl ⟨rfl, rfl⟩
      | some s => exact .inr ⟨rfl, _, rfl, Value.areTexts_put _ _ _⟩

/-- What is checked of a configuration once its entries are known. -/
theorem checked_cases (path : Path) (entries : List (Value × Value)) :
    let loaded : Except Fault Config := do
      let entries ← Value.byName (← placeTemplates path entries)
      ((check entries).orRefuse "FormsConfig").mapError fun r => .config path.text (.refused r)
    (((Value.named? entries "templates_dir").any isNoDirectory = true ∨
      Value.areTexts entries = false) ∧ loaded = .error (.misuse .kind)) ∨
    (¬((Value.named? entries "templates_dir").any isNoDirectory = true ∨
      Value.areTexts entries = false) ∧
      FailsWith (fun e => ∃ cause, e = .config path.text cause) loaded) := by
  intro loaded
  rcases placeTemplates_cases path entries with ⟨noDirectory, refused⟩ |
    ⟨isDirectory, placed, ok, keys⟩
  · left
    refine ⟨.inl noDirectory, ?_⟩
    simp only [loaded, refused]
    rfl
  · rcases Value.byName_texts placed with ⟨texts, named, read⟩ | ⟨noTexts, refused⟩
    · right
      refine ⟨by rw [isDirectory, ← keys, texts]; simp, ?_⟩
      simp only [loaded, ok, ok_bind, read]
      cases check named with
      | good config => exact .ok _
      | bad issues => exact .error ⟨_, rfl⟩
    · left
      refine ⟨.inr (keys.symm.trans noTexts), ?_⟩
      simp only [loaded, ok, ok_bind, refused]
      rfl

/-- **What is not reported of a configuration.** Loading ends with a misuse if and only if a numeral
is too long or the section cannot be checked, and is refused as a configuration otherwise. -/
theorem ofToml_cases (path : Path) (source : String) :
    (Escapes source ∧ ∃ m, ofToml path source = .error (.misuse m)) ∨
    (¬Escapes source ∧
      FailsWith (fun e => ∃ cause, e = .config path.text cause) (ofToml path source)) := by
  unfold Escapes ofToml
  cases Toml.parse source with
  | error flaw =>
    cases flaw with
    | malformed => exact .inr ⟨by simp, .error ⟨_, rfl⟩⟩
    | longNumeral => exact .inl ⟨.inl rfl, _, rfl⟩
  | ok file =>
    simp only [entriesIn_section, reduceCtorEq, false_or, Except.ok.injEq, exists_and_left,
      exists_eq_left']
    cases section? file with
    | none =>
      right
      refine ⟨by simp, ?_⟩
      rcases checked_cases path [] with ⟨misfits, -⟩ | ⟨-, fails⟩
      · simp [Value.named?, Value.areTexts] at misfits
      · exact fails
    | some v =>
      simp only [Option.elim_some, Option.some.injEq, exists_eq_left', Misfits]
      cases read : Value.entriesOf v with
      | error e =>
        left
        obtain ⟨m, rfl⟩ := Value.entriesOf_misuse v e read
        exact ⟨trivial, m, rfl⟩
      | ok entries =>
        rcases checked_cases path entries with ⟨misfits, refused⟩ | ⟨fits, fails⟩
        · exact .inl ⟨misfits, _, refused⟩
        · exact .inr ⟨fits, fails⟩

end Config

/-! ## Form files -/

namespace FormFile

open Rule

/-- The errors of a file are given, but not as a table. -/
def ErrorsMisfit (file : List (String × Value)) : Prop :=
  ∃ v, file.lookup "errors" = some v ∧ v.table?.isNone = true

/-- The first fault of the items of a form is a misuse. -/
def ItemsMisfit (form : List (String × Value)) : Prop :=
  ∃ items m rest, form.lookup "items" = some items ∧
    Form.Items.faults "form.items" items = .misuse m :: rest

/-- The text of a form file has a numeral that is too long, or it says what it is for and has errors
or items that cannot be used. -/
def Escapes (path : Path) (source : String) : Prop :=
  Toml.parse source = .error .longNumeral ∨
  ∃ entries form, Toml.parse source = .ok entries ∧
    formIn path (textEntries entries) = .ok form ∧
    (ErrorsMisfit (textEntries entries) ∨ ItemsMisfit form)

/-- A fault that is reported of a form file or of an item in it. -/
def IsReported (path : Path) (e : Fault) : Prop :=
  (∃ cause, e = .file path.text cause) ∨ ∃ way cause, e = .item way cause

theorem errorsIn_cases (file : List (String × Value)) :
    (ErrorsMisfit file ∧ errorsIn file = .error (.misuse .attribute)) ∨
    (¬ErrorsMisfit file ∧ ∃ errors, errorsIn file = .ok errors) := by
  unfold ErrorsMisfit errorsIn
  cases file.lookup "errors" with
  | none => exact .inr ⟨by simp, _, rfl⟩
  | some v =>
    cases v with
    | table entries => exact .inr ⟨by simp [Value.table?], _, rfl⟩
    | _ => exact .inl ⟨⟨_, rfl, rfl⟩, rfl⟩

theorem declarationsIn_cases (path : Path) (form : List (String × Value)) :
    (ItemsMisfit form ∧ ∃ m, declarationsIn path form = .error (.misuse m)) ∨
    (¬ItemsMisfit form ∧ FailsWith (IsReported path) (declarationsIn path form)) := by
  unfold ItemsMisfit declarationsIn
  cases form.lookup "items" with
  | none => exact .inr ⟨by simp, .ok _⟩
  | some items =>
    have kinds := Form.Items.faults_kind items "form.items"
    have first := Form.Items.load_first items "form.items"
    simp only [Option.some.injEq, exists_and_left, exists_eq_left']
    generalize Form.Items.faults "form.items" items = faults at kinds first ⊢
    generalize Form.Items.load "form.items" items = loaded at first ⊢
    cases first with
    | none declarations => exact .inr ⟨by simp, .ok _⟩
    | first e rest =>
      rw [List.all_cons, Bool.and_eq_true] at kinds
      cases e with
      | item way cause => exact .inr ⟨by simp, .error (.inr ⟨way, cause, rfl⟩)⟩
      | refused r => exact .inr ⟨by simp, .error (.inl ⟨_, rfl⟩)⟩
      | misuse m => exact .inl ⟨⟨m, rest, rfl⟩, m, rfl⟩
      | _ => cases kinds.1

theorem formIn_fails (path : Path) (file : List (String × Value)) :
    FailsWith (IsReported path) (formIn path file) := by
  unfold formIn
  split
  · dsimp only
    split
    · exact .ok _
    · exact .error (.inl ⟨_, rfl⟩)
  · exact .error (.inl ⟨_, rfl⟩)

/-- **What is not reported of a form file.** Loading ends with a misuse if and only if a numeral is
too long or the errors or items cannot be used; any other fault is reported of the file or of an
item. -/
theorem ofToml_cases (path : Path) (source : String) :
    (Escapes path source ∧ ∃ m, ofToml path source = .error (.misuse m)) ∨
    (¬Escapes path source ∧ FailsWith (IsReported path) (ofToml path source)) := by
  unfold Escapes ofToml
  cases Toml.parse source with
  | error flaw =>
    cases flaw with
    | malformed => exact .inr ⟨by simp, .error (.inl ⟨_, rfl⟩)⟩
    | longNumeral => exact .inl ⟨.inl rfl, _, rfl⟩
  | ok entries =>
    simp only [reduceCtorEq, false_or, Except.ok.injEq, exists_and_left, exists_eq_left']
    cases found : formIn path (textEntries entries) with
    | error e =>
      right
      refine ⟨by simp, ?_⟩
      exact .error (formIn_fails path _ e found)
    | ok form =>
      simp only [ok_bind, Except.ok.injEq, exists_eq_left']
      rcases errorsIn_cases (textEntries entries) with ⟨misfit, refused⟩ | ⟨fit, errors, read⟩
      · left
        rw [refused]
        exact ⟨.inl misfit, _, rfl⟩
      · rw [read, ok_bind]
        rcases declarationsIn_cases path form with ⟨misfit, m, refused⟩ | ⟨itemsFit, fails⟩
        · left
          rw [refused]
          exact ⟨.inr misfit, m, rfl⟩
        · right
          refine ⟨fun misfit => misfit.elim fit itemsFit, fails.bind fun declarations _ => ?_⟩
          cases check (textEntries entries) form declarations errors with
          | good file => exact .ok _
          | bad issues => exact .error (.inl ⟨_, rfl⟩)

end FormFile

end Formwright
