import Formwright.Form.Compile
import Formwright.Proofs.Form.Order
import Formwright.Proofs.Outcome

/-!
# The faults of a form

All that is wrong with a form, listed without compiling it: the faults of each declaration with the
way to them, those of a group's own options after the faults of what is grouped in it. A form is
compiled if the list is empty, and refused for the first of the list otherwise.

- `Declaration.causes`, `Declaration.unwritten`: what is wrong with a declaration.
- `Form.faults`, `Form.faultsAll`, `Form.faultsOf`: all that is wrong, and where.
- `Declaration.Within`, `mem_faultsAll`: the faults are those of all declarations at any depth.
- `compile_first`, `compileAll_first`: compilation stops at the first fault.
- `ofDescription_first`: a whole form.
-/

namespace Formwright

open Form Outcome

/-! ## What is wrong with a declaration -/

/-- A field name that is blank. -/
def nameCauses (field : String) : List FormCause :=
  if Text.allBlank field then [.blankName] else []

/-- Options that are refused. -/
def optionCauses (options : List (String × Value)) : List FormCause :=
  match FieldOptions.check options with
  | .good _ => []
  | .bad issues => [.badOptions ⟨"FieldOptions", issues⟩]

/-- No collection among the options. -/
def collectionCauses (options : List (String × Value)) : List FormCause :=
  match options.lookup "collection" with
  | none | some .none => [.noCollection]
  | some _ => []

namespace Declaration

/-- The step to a declaration. Content, scripts and what is no declaration have none. -/
def step? : Declaration → Option Step
  | .input field _ => some (.input field)
  | .collection field _ => some (.collection field)
  | .group label _ _ => some (.group label)
  | .hasMany field _ _ => some (.hasMany field)
  | .actions _ => some .actions
  | .content _ _ | .script _ | .unknown _ => none

/-- What is wrong with a declaration below the top level, apart from what is grouped in it. -/
def causes : Declaration → List FormCause
  | .input field options => nameCauses field ++ optionCauses options
  | .collection field options =>
    nameCauses field ++ (optionCauses options ++ collectionCauses options)
  | .group _ none options => .groupWithoutBody :: optionCauses options
  | .group _ (some _) options => optionCauses options
  | .hasMany field none options => nameCauses field ++ .noRowBuilder :: optionCauses options
  | .hasMany field (some _) options => nameCauses field ++ optionCauses options
  | .actions none => [.actionsWithoutBody]
  | .actions (some _) => []
  | .content _ _ => []
  | .script _ => [.scriptBelowTop]
  | .unknown v => if v.isShowable then [.unknownDeclaration v.literal] else []

/-- What keeps the cause from being written: what is no declaration may hold a number with too many
digits. -/
def unwritten : Declaration → List Fault
  | .unknown v => if v.isShowable then [] else [.misuse .length]
  | _ => []

/-- The declaration is found among others by steps through groups. -/
inductive Within : List Declaration → List Step → Declaration → Prop where
  | here {ds : List Declaration} {d : Declaration} (mem : d ∈ ds) : Within ds [] d
  | group {ds body : List Declaration} {label : String} {options : List (String × Value)}
      {way : List Step} {d : Declaration} (mem : .group label (some body) options ∈ ds)
      (within : Within body way d) : Within ds (.group label :: way) d
  | actions {ds body : List Declaration} {way : List Step} {d : Declaration}
      (mem : .actions (some body) ∈ ds) (within : Within body way d) :
      Within ds (.actions :: way) d

theorem Within.mono {ds es : List Declaration} {way : List Step} {d : Declaration}
    (h : Within ds way d) (sub : ∀ e ∈ ds, e ∈ es) : Within es way d := by
  cases h with
  | here mem => exact .here (sub _ mem)
  | group mem within => exact .group (sub _ mem) within
  | actions mem within => exact .actions (sub _ mem) within

end Declaration

namespace Form

open Declaration

/-! ## All faults, in order -/

/-- Causes at the end of a way. -/
def faultsAt (path : List Step) (causes : List FormCause) : List FormFault :=
  causes.map (FormFault.located path)

/-- The faults of a declaration itself, which the way of its groups and its own step lead to. -/
def ownFaults (path : List Step) (d : Declaration) : List FormFault :=
  faultsAt (path ++ d.step?.toList) d.causes ++ d.unwritten.map .other

mutual

/-- The faults of a declaration and of what is grouped in it. -/
def faults (path : List Step) : Declaration → List FormFault
  | .group label (some body) options =>
    faultsAll (path ++ [.group label]) body ++ ownFaults path (.group label (some body) options)
  | .actions (some body) =>
    faultsAll (path ++ [.actions]) body ++ ownFaults path (.actions (some body))
  | d => ownFaults path d

/-- The faults of declarations, from the first to the last. -/
def faultsAll (path : List Step) : List Declaration → List FormFault
  | [] => []
  | d :: rest => faults path d ++ faultsAll path rest

end

/-- The faults of a form, whose top level may have scripts. -/
def faultsOf : Option Description → List FormFault
  | none => [.located [] .noForm]
  | some (.other kind) => [.located [] (.notDeclarations kind)]
  | some (.failed fault) => [.other fault]
  | some (.declarations ds) => faultsAll [] (ds.filter (!·.isScript))

/-! ## Faults of all declarations -/

theorem mem_faults_own {path : List Step} {d : Declaration} {f : FormFault}
    (h : f ∈ ownFaults path d) : f ∈ faults path d := by
  unfold faults
  split
  · exact List.mem_append_right _ h
  · exact List.mem_append_right _ h
  · exact h

theorem mem_faultsAll_of_mem {path : List Step} {ds : List Declaration} {d : Declaration}
    {f : FormFault} (mem : d ∈ ds) (h : f ∈ faults path d) : f ∈ faultsAll path ds := by
  induction ds with
  | nil => cases mem
  | cons e rest ih =>
    rw [faultsAll, List.mem_append]
    rcases List.mem_cons.mp mem with rfl | mem
    · exact .inl h
    · exact .inr (ih mem)

mutual

theorem faults_within : ∀ (d : Declaration) {path : List Step} {f : FormFault},
    f ∈ faults path d → ∃ way e, Within [d] way e ∧ f ∈ ownFaults (path ++ way) e
  | .group label (some body) options, path, f, h => by
    rw [faults, List.mem_append] at h
    rcases h with below | own
    · obtain ⟨way, e, within, owned⟩ := faultsAll_within body below
      refine ⟨.group label :: way, e, .group List.mem_cons_self within, ?_⟩
      rwa [List.append_cons]
    · exact ⟨[], _, .here List.mem_cons_self, by rwa [List.append_nil]⟩
  | .actions (some body), path, f, h => by
    rw [faults, List.mem_append] at h
    rcases h with below | own
    · obtain ⟨way, e, within, owned⟩ := faultsAll_within body below
      refine ⟨.actions :: way, e, .actions List.mem_cons_self within, ?_⟩
      rwa [List.append_cons]
    · exact ⟨[], _, .here List.mem_cons_self, by rwa [List.append_nil]⟩
  | .group _ none _, path, f, h
  | .actions none, path, f, h
  | .input _ _, path, f, h
  | .collection _ _, path, f, h
  | .hasMany _ _ _, path, f, h
  | .content _ _, path, f, h
  | .script _, path, f, h
  | .unknown _, path, f, h => by
    refine ⟨[], _, .here List.mem_cons_self, ?_⟩
    rw [List.append_nil]
    simpa only [faults] using h

theorem faultsAll_within : ∀ (ds : List Declaration) {path : List Step} {f : FormFault},
    f ∈ faultsAll path ds → ∃ way e, Within ds way e ∧ f ∈ ownFaults (path ++ way) e
  | [], path, f, h => by
    rw [faultsAll] at h
    cases h
  | d :: rest, path, f, h => by
    rw [faultsAll, List.mem_append] at h
    rcases h with first | others
    · obtain ⟨way, e, within, owned⟩ := faults_within d first
      exact ⟨way, e, within.mono (by simp), owned⟩
    · obtain ⟨way, e, within, owned⟩ := faultsAll_within rest others
      exact ⟨way, e, within.mono fun e mem => List.mem_cons_of_mem d mem, owned⟩

end

/-- **The faults of declarations** are those of every declaration that is found among them at any
depth, each at the end of the way to it. -/
theorem mem_faultsAll {path : List Step} {ds : List Declaration} {f : FormFault} :
    f ∈ faultsAll path ds ↔ ∃ way d, Within ds way d ∧ f ∈ ownFaults (path ++ way) d := by
  refine ⟨faultsAll_within ds, ?_⟩
  rintro ⟨way, d, within, owned⟩
  induction within generalizing path with
  | here mem =>
    rw [List.append_nil] at owned
    exact mem_faultsAll_of_mem mem (mem_faults_own owned)
  | group mem _ ih =>
    rw [List.append_cons] at owned
    refine mem_faultsAll_of_mem mem ?_
    rw [faults]
    exact List.mem_append_left _ (ih owned)
  | actions mem _ ih =>
    rw [List.append_cons] at owned
    refine mem_faultsAll_of_mem mem ?_
    rw [faults]
    exact List.mem_append_left _ (ih owned)

/-! ## Compilation stops at the first fault -/

theorem faultsAt_append (path : List Step) (causes more : List FormCause) :
    faultsAt path (causes ++ more) = faultsAt path causes ++ faultsAt path more :=
  List.map_append

theorem checkName_first (path : List Step) (name : String) :
    FirstOf (faultsAt path (nameCauses name)) (checkName path name) := by
  unfold checkName nameCauses
  split
  · exact .first _ []
  · exact .none _

theorem checkOptions_first (path : List Step) (options : List (String × Value)) :
    FirstOf (faultsAt path (optionCauses options)) (checkOptions path options) := by
  unfold checkOptions optionCauses
  cases FieldOptions.check options with
  | good o => exact .none o
  | bad issues => exact .first _ []

theorem optional_isNone {α : Type} {rule : Rule α} {v : Value} {a : Option α}
    (h : Rule.optional rule v = .good a) : a.isNone = v.isNone := by
  unfold Rule.optional at h
  split at h
  · cases h
    rfl
  · rename_i given
    cases checked : rule v with
    | bad issues =>
      rw [checked] at h
      cases h
    | good b =>
      rw [checked] at h
      cases h
      cases v with
      | none => exact absurd rfl given
      | _ => rfl

theorem under_eq_good {α : Type} {step : String} {c : Checked α} {a : α}
    (h : c.under step = .good a) : c = .good a := by
  cases c with
  | good b => exact h
  | bad issues => cases h

theorem check_collection {options : List (String × Value)} {o : FieldOptions}
    (checked : FieldOptions.check options = .good o) :
    Rule.withDefault options "collection" (Rule.optional Collection.rule) none =
      .good o.collection := by
  simp only [FieldOptions.check, Checked.seq_eq_good, Checked.map_eq_good] at checked
  obtain ⟨_, _, ⟨_, checked, rfl⟩, -, rfl⟩ := checked
  -- the options that are checked after the collection, from the last to the first
  iterate 8 obtain ⟨_, _, checked, -, rfl⟩ := checked
  obtain ⟨_, _, checked, found, rfl⟩ := checked
  obtain ⟨_, _, ⟨_, -, rfl⟩, -, rfl⟩ := checked
  exact found

/-- Options that pass have a collection if and only if one was given. -/
theorem collectionCauses_checked {options : List (String × Value)} {o : FieldOptions}
    (checked : FieldOptions.check options = .good o) :
    collectionCauses options = if o.collection.isNone then [.noCollection] else [] := by
  have found := check_collection checked
  unfold Rule.withDefault at found
  unfold collectionCauses
  split at found
  · rename_i v given
    rw [optional_isNone (under_eq_good found), given]
    cases v <;> rfl
  · rename_i missing
    rw [missing, ← Checked.good.inj found]
    rfl

mutual

/-- **A declaration** is refused for the first of its faults. -/
theorem compile_first : ∀ (d : Declaration), d.isScript = false → ∀ (path : List Step),
    FirstOf (faults path d) (compile path d)
  | .input field options, _, path => by
    simp only [faults, compile, ownFaults, causes, unwritten, step?, Option.toList_some,
      faultsAt_append, List.map_nil, List.append_nil]
    refine (checkName_first _ field).bind fun _ _ => ?_
    exact (checkOptions_first _ options).thenReturn
  | .collection field options, _, path => by
    simp only [faults, compile, ownFaults, causes, unwritten, step?, Option.toList_some,
      faultsAt_append, List.map_nil, List.append_nil]
    refine (checkName_first _ field).bind fun _ _ => ?_
    refine (checkOptions_first _ options).bind fun o checked => ?_
    rw [collectionCauses_checked (checkOptions_ok checked)]
    cases o.collection with
    | none => exact .first _ []
    | some collection => exact .none _
  | .group label none options, _, path => by
    simp only [faults, compile, ownFaults, causes, unwritten]
    exact .first _ _
  | .group label (some body) options, _, path => by
    simp only [faults, compile, ownFaults, causes, unwritten, step?, Option.toList_some,
      List.map_nil, List.append_nil]
    refine (compileAll_first body _).bind fun level _ => ?_
    exact (checkOptions_first _ options).thenReturn
  | .hasMany field none options, _, path => by
    simp only [faults, compile, ownFaults, causes, unwritten, step?, Option.toList_some,
      faultsAt_append, List.map_nil, List.append_nil]
    refine (checkName_first _ field).bind fun _ _ => ?_
    exact .first _ _
  | .hasMany field (some builder) options, _, path => by
    simp only [faults, compile, ownFaults, causes, unwritten, step?, Option.toList_some,
      faultsAt_append, List.map_nil, List.append_nil]
    refine (checkName_first _ field).bind fun _ _ => ?_
    exact (checkOptions_first _ options).thenReturn
  | .actions none, _, path => by
    simp only [faults, compile, ownFaults, causes, unwritten]
    exact .first _ []
  | .actions (some body), _, path => by
    simp only [faults, compile, ownFaults, causes, unwritten, faultsAt, List.map_nil,
      List.append_nil]
    exact (compileAll_first body _).thenReturn
  | .content _ _, _, path => by
    simp only [faults, compile, ownFaults, causes, unwritten]
    exact .none _
  | .script _, other, path => by cases other
  | .unknown v, _, path => by
    simp only [faults, compile, ownFaults, causes, unwritten, step?, Option.toList_none,
      List.append_nil]
    split
    · exact .first _ []
    · exact .first _ []

/-- **Declarations below the top level** are refused for the first of their faults. -/
theorem compileAll_first : ∀ (ds : List Declaration) (path : List Step),
    FirstOf (faultsAll path ds) (compileAll false path ds)
  | [], path => by
    simp only [faultsAll, compileAll]
    exact .none _
  | d :: rest, path => by
    rw [faultsAll]
    cases isScript : d.isScript with
    | true =>
      obtain ⟨s, rfl⟩ := eq_script isScript
      simp only [faults, compileAll, ownFaults, causes, unwritten, step?, Option.toList_none,
        List.append_nil]
      exact .first _ _
    | false =>
      rw [compileAll]
      · refine (compile_first d isScript path).bind fun node _ => ?_
        exact (compileAll_first rest path).thenReturn
      · rintro s rfl
        cases isScript

end

/-- At the top level scripts are passed over. -/
theorem compileAll_top_first : ∀ (ds : List Declaration),
    FirstOf (faultsAll [] (ds.filter (!·.isScript))) (compileAll true [] ds)
  | [] => by
    simp only [List.filter_nil, faultsAll, compileAll]
    exact .none _
  | d :: rest => by
    cases isScript : d.isScript with
    | true =>
      obtain ⟨s, rfl⟩ := eq_script isScript
      rw [List.filter_cons_of_neg (by simp [isScript])]
      simp only [compileAll]
      exact (compileAll_top_first rest).thenReturn
    | false =>
      rw [List.filter_cons_of_pos (by simp [isScript]), faultsAll, compileAll]
      · refine (compile_first d isScript []).bind fun node _ => ?_
        exact (compileAll_top_first rest).thenReturn
      · rintro s rfl
        cases isScript

theorem compileTop_first (description : Option Description) :
    FirstOf (faultsOf description) (compileTop description) := by
  match description with
  | none => exact .first _ []
  | some (.other kind) => exact .first _ []
  | some (.failed fault) => exact .first _ []
  | some (.declarations ds) => exact compileAll_top_first ds

/-! ## Whole forms -/

theorem ofDescription_error_iff (description : Option Description) (resource : String)
    (e : Fault) : Tree.ofDescription description resource = .error e ↔
      ∃ f, compileTop description = .error f ∧ e = f.ofForm resource := by
  unfold Tree.ofDescription
  cases compileTop description with
  | ok level => simp
  | error fault => simp [eq_comm]

/-- A blank name in a group comes before the options of the group, although these are written
first. -/
example : faultsOf (some (.declarations [
    .group "Details" (some [.input " " [("as", .text "table")]]) [("style", .none)]])) = [
    .located [.group "Details", .input " "] .blankName,
    .located [.group "Details", .input " "]
      (.badOptions ⟨"FieldOptions", [⟨["as"], .notMember⟩]⟩),
    .located [.group "Details"]
      (.badOptions ⟨"FieldOptions", [⟨["style"], .unknownKey⟩]⟩)] := by
  rfl

end Form

end Formwright
