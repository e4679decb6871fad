import Mathlib
import Formwright.CommandLine.Run
import Formwright.Proofs.CommandLine.Loading
import Formwright.Proofs.Render.Reporting

/-!
# Commands whose faults are reported

The command that renders a form file reads the configuration, the templates and the form file and
then delivers the form, so it runs as `rendering` says. A fault of a file is reported unless the
file escapes; a fault of the form is reported if everything in it can be drawn.

- `FormFile.IsDrawable`, `FormFile.render_reports`: a file and the faults of its form.
- `Command.rendering`, `renderForm_run`, `deliver_run`: how the command runs.
- `Command.Delivers`, `Command.Reports`: the two ways in which it should end.
- `Command.files_reported`: files are refused as what they are unless they escape, and a command on
  usable files ends in one of the two ways.
- `Command.files_escape`: some files escape.
-/

namespace Formwright

open Form Outcome Render

/-! ## Form files -/

namespace FormFile

/-- What a file is drawn with if a site has no templates of its own. -/
def renderer (f : FormFile) (config : Config) : Renderer where
  schema := f.schema
  drawing := ⟨.standard, config⟩

theorem tree_reports {path : Path} {source : String} (numbers : Toml.WritesNumbers source)
    {f : FormFile} (read : ofToml path source = .ok f) (config : Config) :
    FailsReported (f.tree config.excludedFields) := by
  obtain ⟨-, fails⟩ := tree_listed numbers read config.excludedFields (f.renderer config)
  refine fails.mono fun e reason => ?_
  rcases reason with unknown | ⟨way, cause, rfl⟩
  · exact Fault.isReported_of_isUnknown unknown
  · rfl

/-- Nothing is found in the file or the configuration that is not reported when the form is
drawn. -/
structure IsDrawable (f : FormFile) (config : Config) (today : Date) : Prop where
  length : (writtenNumeral config.textMaxlength).isOk = true
  worded : ∀ e ∈ (f.context today).errors.getD [], (Errors.sentence e.2).isOk = true
  inputs : ∀ tree, f.tree config.excludedFields = .ok tree →
    (f.renderer config).EveryInputOf (f.renderer config).IsDrawable
      (.ofContext (f.context today)) tree.nodes

theorem IsDrawable.plain {f : FormFile} {config : Config} {today : Date}
    (drawable : f.IsDrawable config today) : (f.renderer config).Plain (f.context today) where
  standard := rfl
  length := drawable.length
  shows := by
    have filled : Drawing.drawsErrors ⟨.standard, config⟩ = true := by rfl
    rw [Drawing.showsErrorsOf, List.all_eq_true]
    intro e mem
    exact Bool.and_eq_true_iff.mpr ⟨drawable.worded e mem, filled⟩

/-- **The faults of a form file** that can be drawn are reported. -/
theorem render_reports {path : Path} {source : String} {f : FormFile}
    (numbers : Toml.WritesNumbers source) (read : ofToml path source = .ok f) {config : Config}
    {today : Date} (drawable : f.IsDrawable config today) :
    FailsReported (f.render ⟨.standard, config⟩ today) := by
  refine (tree_reports numbers read config).bind fun tree found => ?_
  have listed :=
    (tree_listed numbers read config.excludedFields (f.renderer config)).1 tree found
  exact Renderer.form_reports drawable.plain tree listed (drawable.inputs tree found)

end FormFile

/-! ## Commands -/

namespace Command

variable {t : FileTree} {today : Date} {request : RenderRequest} {source : String}

/-- The configuration that is in effect for a path of a tree. -/
def configIn (t : FileTree) (path : Path) : Except Report Config :=
  match t.entry path with
  | .missing => .ok .standard
  | .directory => .error (.unusable path .directory)
  | .file source => (Config.ofToml path source).mapError .fault

/-- What follows a step is run on the state that the step leaves. -/
theorem run_bind {σ α β : Type} {x : StateM σ α} {next : α → StateM σ β} {s s' : σ} {a : α}
    (ran : x.run s = (a, s')) : (x >>= next).run s = (next a).run s' := by
  rw [StateT.run_bind, ran]
  rfl

theorem configAt_run (t : FileTree) (path : Path) :
    (configAt FileTree.access path).run t = (configIn t path, t) := by
  have entry : (FileTree.access.entry path).run t = (t.entry path, t) := rfl
  unfold configAt configIn
  rw [run_bind entry]
  cases t.entry path <;> rfl

theorem themeOf_run (t : FileTree) (config : Config) :
    (themeOf FileTree.access config).run t = (⟨config.templatesDir.bind t.below⟩, t) := by
  unfold themeOf
  cases config.templatesDir <;> rfl

/-- What the command makes of a form file that is there: what it renders, or why it fails. -/
def rendering (t : FileTree) (today : Date) (request : RenderRequest) (source : String) :
    Except Report Renderer.Rendered := do
  let config ← configIn t request.config
  let theme := ⟨config.templatesDir.bind t.below⟩
  (FormFile.ofToml request.formFile source >>= fun form =>
    form.render ⟨theme, config⟩ today).mapError .fault

/-- The command fails without a trace or delivers what it renders. -/
theorem renderForm_run (there : t.entry request.formFile = .file source) :
    (renderForm FileTree.access today request).run t =
      match rendering t today request source with
      | .error report => (.failed report, t)
      | .ok r => (deliver FileTree.access request.output (pageText r)).run t := by
  have entry : (FileTree.access.entry request.formFile).run t = (.file source, t) := by
    rw [← there]
    rfl
  unfold renderForm rendering
  rw [run_bind entry]
  simp only
  rw [run_bind (configAt_run t request.config)]
  cases configIn t request.config with
  | error report => rfl
  | ok config =>
    simp only [ok_bind]
    rw [run_bind (themeOf_run t config)]
    cases FormFile.ofToml request.formFile source >>= fun form =>
      form.render ⟨⟨config.templatesDir.bind t.below⟩, config⟩ today <;> rfl

theorem deliver_run (text : String) :
    (deliver FileTree.access request.output text).run t =
      match request.output with
      | none => (.printed (text ++ "\n"), t)
      | some path =>
        match t.write path (text ++ "\n") with
        | .ok t' => (.printed ("Wrote " ++ path.text ++ "\n"), t')
        | .error fault => (.failed (.unusable path fault), t) := by
  unfold deliver
  cases request.output with
  | none => rfl
  | some path =>
    have write : (FileTree.access.write path (text ++ "\n")).run t =
        match t.write path (text ++ "\n") with
        | .ok t' => (none, t')
        | .error fault => (some fault, t) := by
      have get : (MonadState.get : StateM FileTree FileTree).run t = (t, t) := rfl
      change StateT.run (MonadState.get >>= _) t = _
      rw [run_bind get]
      cases t.write path (text ++ "\n") <;> rfl
    simp only
    cases written : t.write path (text ++ "\n") with
    | error fault =>
      rw [written] at write
      rw [run_bind write]
      rfl
    | ok t' =>
      rw [written] at write
      rw [run_bind write]
      rfl

/-! ## What is reported -/

/-- The command has rendered a form, and printed it or written it to a file. -/
structure Delivers (t t' : FileTree) (request : RenderRequest) (r : Renderer.Rendered)
    (o : Outcome) : Prop where
  exitCode : o.exitCode = 0
  errorText : o.errorText = ""
  delivered : match request.output with
    | none => o.output = pageText r ++ "\n" ∧ t' = t
    | some path =>
      o.output = "Wrote " ++ path.text ++ "\n" ∧ t.write path (pageText r ++ "\n") = .ok t'

/-- The command has reported a fault, and has neither printed nor written anything else. -/
structure Reports (t t' : FileTree) (e : Fault) (o : Outcome) : Prop where
  exitCode : o.exitCode = 1
  output : o.output = ""
  errorText : o.errorText = "Error: " ++ e.message ++ "\n"
  unchanged : t' = t

/-- The command can read its files and write where it is asked to. -/
structure IsReady (t : FileTree) (request : RenderRequest) (source : String) : Prop where
  formFile : t.entry request.formFile = .file source
  config : t.entry request.config ≠ .directory
  output : ∀ path, request.output = some path → ∀ text, (t.write path text).isOk = true

/-- Nothing is found in the files that is not reported, and the templates are the built-in ones. -/
structure IsUsable (t : FileTree) (today : Date) (request : RenderRequest) (source : String) :
    Prop where
  config : ∀ text, t.entry request.config = .file text → ¬Config.Escapes text
  form : ¬FormFile.Escapes request.formFile source
  numbers : Toml.WritesNumbers source
  builtIn : ∀ config, configIn t request.config = .ok config →
    config.templatesDir.bind t.below = none
  drawable : ∀ config file, configIn t request.config = .ok config →
    FormFile.ofToml request.formFile source = .ok file → file.IsDrawable config today

theorem configIn_reports (config : t.entry request.config ≠ .directory)
    (fits : ∀ text, t.entry request.config = .file text → ¬Config.Escapes text) :
    FailsWith (fun report => ∃ e : Fault, report = .fault e ∧ e.isReported = true)
      (configIn t request.config) := by
  unfold configIn
  split
  · exact .ok _
  · rename_i lies
    exact absurd lies config
  · rename_i text lies
    rcases Config.ofToml_cases request.config text with ⟨escapes, -⟩ | ⟨-, fails⟩
    · exact absurd escapes (fits text lies)
    · generalize Config.ofToml request.config text = loaded at fails ⊢
      cases loaded with
      | ok config => exact .ok _
      | error e =>
        obtain ⟨cause, rfl⟩ := fails e rfl
        exact .error ⟨_, rfl, rfl⟩

theorem rendering_reports (ready : IsReady t request source)
    (usable : IsUsable t today request source) :
    FailsWith (fun report => ∃ e : Fault, report = .fault e ∧ e.isReported = true)
      (rendering t today request source) := by
  refine (configIn_reports ready.config usable.config).bind fun config found => ?_
  have rendered : FailsReported (FormFile.ofToml request.formFile source >>= fun form =>
      form.render ⟨⟨config.templatesDir.bind t.below⟩, config⟩ today) := by
    rw [usable.builtIn config found]
    refine FailsWith.bind ?_ fun file read => ?_
    · rcases FormFile.ofToml_cases request.formFile source with ⟨escapes, -⟩ | ⟨-, fails⟩
      · exact absurd escapes usable.form
      · refine fails.mono fun e reported => ?_
        rcases reported with ⟨cause, rfl⟩ | ⟨way, cause, rfl⟩
        · rfl
        · rfl
    · exact FormFile.render_reports usable.numbers read (usable.drawable config file found read)
  dsimp only
  generalize (FormFile.ofToml request.formFile source >>= fun form =>
    form.render ⟨⟨config.templatesDir.bind t.below⟩, config⟩ today) = outcome at rendered ⊢
  cases outcome with
  | ok r => exact .ok _
  | error e => exact .error ⟨e, rfl, rendered e rfl⟩

theorem reports_failed {e : Fault} (reported : e.isReported = true) :
    Reports t t e (.failed (.fault e)) where
  exitCode := rfl
  output := rfl
  errorText := by
    change (if e.isReported then _ else _) = _
    rw [if_pos reported]
  unchanged := rfl

theorem delivers_page (ready : IsReady t request source) (r : Renderer.Rendered) :
    ∃ o t', (deliver FileTree.access request.output (pageText r)).run t = (o, t') ∧
      Delivers t t' request r o := by
  rw [deliver_run]
  cases asked : request.output with
  | none => exact ⟨.printed (pageText r ++ "\n"), t, rfl, rfl, rfl, by rw [asked]; exact ⟨rfl, rfl⟩⟩
  | some path =>
    obtain ⟨t', written⟩ := exists_of_isOk (ready.output path asked (pageText r ++ "\n"))
    refine ⟨.printed ("Wrote " ++ path.text ++ "\n"), t', by simp only [written], rfl, rfl, ?_⟩
    rw [asked]
    exact ⟨rfl, written⟩

/-- The command delivers what it renders of usable files, or reports why it does not. -/
theorem renderForm_reports (ready : IsReady t request source)
    (usable : IsUsable t today request source) :
    ∃ o t', (renderForm FileTree.access today request).run t = (o, t') ∧
      ((∃ r, rendering t today request source = .ok r ∧ Delivers t t' request r o) ∨
        ∃ e : Fault, rendering t today request source = .error (.fault e) ∧
          e.isReported = true ∧ Reports t t' e o) := by
  rw [renderForm_run ready.formFile]
  cases made : rendering t today request source with
  | error report =>
    obtain ⟨e, rfl, reported⟩ := rendering_reports ready usable report made
    exact ⟨_, _, rfl, .inr ⟨e, rfl, reported, reports_failed reported⟩⟩
  | ok r =>
    obtain ⟨o, t', ran, delivers⟩ := delivers_page ready r
    exact ⟨o, t', ran, .inl ⟨r, rfl, delivers⟩⟩

/-- What escapes when the files are loaded escapes the command. -/
theorem renderForm_escapes (ready : IsReady t request source)
    (escapes : (∃ text, t.entry request.config = .file text ∧ Config.Escapes text) ∨
      (∃ config, configIn t request.config = .ok config) ∧
        FormFile.Escapes request.formFile source) :
    ∃ m, (renderForm FileTree.access today request).run t = (.failed (.fault (.misuse m)), t) := by
  rw [renderForm_run ready.formFile]
  unfold rendering
  rcases escapes with ⟨text, lies, escapes⟩ | ⟨⟨config, found⟩, escapes⟩
  · rcases Config.ofToml_cases request.config text with ⟨-, m, failed⟩ | ⟨fits, -⟩
    · refine ⟨m, ?_⟩
      rw [configIn, lies]
      simp only [failed]
      rfl
    · exact absurd escapes fits
  · rcases FormFile.ofToml_cases request.formFile source with ⟨-, m, failed⟩ | ⟨fits, -⟩
    · refine ⟨m, ?_⟩
      rw [found, failed]
      rfl
    · exact absurd escapes fits

/-- **What is not reported of files.** Loading a configuration or a form file ends with a misuse if
and only if its text escapes, and is refused as what it is otherwise; what escapes when the files
are loaded escapes the command as well. If nothing else is found that is not reported, the command
prints or writes the form, or it reports a fault and leaves everything as it was. -/
theorem files_reported (path : Path) (text : String) (today : Date) :
    ((Config.Escapes text ∧ ∃ m, Config.ofToml path text = .error (.misuse m)) ∨
      (¬Config.Escapes text ∧
        FailsWith (fun e => ∃ cause, e = .config path.text cause) (Config.ofToml path text))) ∧
    ((FormFile.Escapes path text ∧ ∃ m, FormFile.ofToml path text = .error (.misuse m)) ∨
      (¬FormFile.Escapes path text ∧
        FailsWith (FormFile.IsReported path) (FormFile.ofToml path text))) ∧
    ∀ (t : FileTree) (request : RenderRequest), IsReady t request text →
      ((∃ configText, t.entry request.config = .file configText ∧ Config.Escapes configText) ∨
        (∃ config, configIn t request.config = .ok config) ∧
          FormFile.Escapes request.formFile text →
        ∃ m, (renderForm FileTree.access today request).run t =
          (.failed (.fault (.misuse m)), t)) ∧
      (IsUsable t today request text →
        ∃ o t', (renderForm FileTree.access today request).run t = (o, t') ∧
          ((∃ r, rendering t today request text = .ok r ∧ Delivers t t' request r o) ∨
            ∃ e : Fault, rendering t today request text = .error (.fault e) ∧
              e.isReported = true ∧ Reports t t' e o)) := by
  refine ⟨Config.ofToml_cases path text, FormFile.ofToml_cases path text, ?_⟩
  intro t request ready
  exact ⟨renderForm_escapes ready, renderForm_reports ready⟩

/-- A form for notes with a title. -/
def noteText : String :=
  "[form]\nresource = 'note'\n[[form.items]]\nkind = 'input'\nfield = 'title'\n" ++
    "[[models]]\nname = 'note'\n[[models.fields]]\nname = 'title'\n"

def noteFile : FormFile where
  resource := "note"
  declarations := some [.input "title" []]
  models := [⟨"note", [⟨"title", "string"⟩], [], "id"⟩]
  record := []
  params := []
  errors := none
  required := []
  mode := .new
  collections := []

theorem noteText_loaded (path : Path) : FormFile.ofToml path noteText = .ok noteFile := by
  cbv

theorem noteFile_drawable (today : Date) : noteFile.IsDrawable .standard today where
  length := by decide +kernel
  worded := by
    intro e mem
    cases mem
  inputs := by
    intro tree found
    have compiled : noteFile.tree Config.standard.excludedFields =
        .ok ⟨"note", [.input "title" .standard]⟩ := by rfl
    cases compiled.symm.trans found
    refine ⟨⟨fun picks => ?_, fun _ => rfl, fun kind t isKind timed => ?_⟩, trivial⟩
    · cases picks
    · have text : (noteFile.renderer .standard).kind? "note" "title" .standard = some .text := by
        rfl
      cases text.symm.trans isKind
      cases timed

/-- The file of notes alone. -/
def noteTree : FileTree := .ofFiles [("note.toml", noteText)]

/-- The file of notes, and a configuration that is a number. -/
def untidyTree : FileTree :=
  .ofFiles [("note.toml", noteText), ("admin_forms.toml", "forms = 5\n")]

def noteRequest : RenderRequest := ⟨.ofText "note.toml", .ofText "admin_forms.toml", none⟩

theorem noteRequest_ready (formFile : t.entry noteRequest.formFile = .file noteText)
    (config : t.entry noteRequest.config ≠ .directory) : IsReady t noteRequest noteText where
  formFile := formFile
  config := config
  output := by
    intro path asked
    cases asked

theorem noteTree_config : noteTree.entry noteRequest.config = .missing := by
  decide +kernel

theorem noteTree_standard : configIn noteTree noteRequest.config = .ok .standard := by
  rw [configIn, noteTree_config]

theorem noteText_usable (today : Date) : IsUsable noteTree today noteRequest noteText where
  config := by
    intro text lies
    rw [noteTree_config] at lies
    cases lies
  form := by
    rcases FormFile.ofToml_cases noteRequest.formFile noteText with ⟨-, m, failed⟩ | ⟨fits, -⟩
    · rw [noteText_loaded] at failed
      cases failed
    · exact fits
  numbers := by
    have written : (match Toml.parse noteText with
        | .ok entries => (Value.table entries).isShowable
        | .error _ => true) = true := by decide +kernel
    intro entries parsed
    rw [parsed] at written
    exact written
  builtIn := by
    intro config found
    cases noteTree_standard.symm.trans found
    rfl
  drawable := by
    intro config file found read
    cases noteTree_standard.symm.trans found
    cases (noteText_loaded _).symm.trans read
    exact noteFile_drawable today

theorem untidyTree_config : untidyTree.entry noteRequest.config = .file "forms = 5\n" := by
  decide +kernel

theorem number_escapes : Config.Escapes "forms = 5\n" := by
  have read : Toml.parse "forms = 5\n" = .ok [(.text "forms", .int 5)] := by cbv
  exact .inr ⟨_, .int 5, read, rfl, trivial⟩

theorem files_reported_note :
    (IsReady noteTree noteRequest noteText ∧
      IsUsable noteTree ⟨2024, 6, 15⟩ noteRequest noteText ∧
      ∃ o, (renderForm FileTree.access ⟨2024, 6, 15⟩ noteRequest).run noteTree = (o, noteTree) ∧
        o.exitCode = 0) ∧
    (IsReady untidyTree noteRequest noteText ∧ Config.Escapes "forms = 5\n" ∧
      ∃ m, (renderForm FileTree.access ⟨2024, 6, 15⟩ noteRequest).run untidyTree =
        (.failed (.fault (.misuse m)), untidyTree)) := by
  have ready : IsReady noteTree noteRequest noteText :=
    noteRequest_ready (by decide +kernel) (by decide +kernel)
  have untidy : IsReady untidyTree noteRequest noteText :=
    noteRequest_ready (by decide +kernel) (by decide +kernel)
  have usable := noteText_usable ⟨2024, 6, 15⟩
  obtain ⟨-, -, commands⟩ := files_reported noteRequest.formFile noteText ⟨2024, 6, 15⟩
  refine ⟨⟨ready, usable, ?_⟩, untidy, ?_⟩
  · obtain ⟨o, t', ran, ends⟩ := (commands _ _ ready).2 usable
    have renders : (rendering noteTree ⟨2024, 6, 15⟩ noteRequest noteText).isOk = true := by
      decide +kernel
    rcases ends with ⟨r, -, delivers⟩ | ⟨e, failed, -⟩
    · have same : t' = noteTree := delivers.delivered.2
      rw [same] at ran
      exact ⟨o, ran, delivers.exitCode⟩
    · rw [failed] at renders
      cases renders
  · have command := (commands untidyTree noteRequest untidy).1
    exact ⟨number_escapes, command (.inl ⟨_, untidyTree_config, number_escapes⟩)⟩

/-! ## Files that escape -/

/-- The title of a note has an attribute that cannot be written. -/
def attributeText : String :=
  "[form]\nresource = 'note'\n[[form.items]]\nkind = 'input'\nfield = 'title'\n" ++
    "options.html_opts.'data note' = '1'\n" ++
    "[[models]]\nname = 'note'\n[[models.fields]]\nname = 'title'\n"

/-- **Files that escape.** A configuration that is a number, errors that are one, and an attribute
whose name cannot be written are no faults that are reported. -/
theorem files_escape :
    Config.ofToml (.ofText "admin_forms.toml") "forms = 5\n" = .error (.misuse .kind) ∧
    FormFile.ofToml (.ofText "note.toml") "errors = 5\n[form]\nresource = 'note'\n" =
      .error (.misuse .attribute) ∧
    ¬FailsReported (FormFile.ofToml (.ofText "note.toml") attributeText >>= fun file =>
      file.render ⟨.standard, .standard⟩ ⟨2024, 6, 15⟩) := by
  exact ⟨by cbv, by cbv, by decide +kernel⟩

end Command

end Formwright
