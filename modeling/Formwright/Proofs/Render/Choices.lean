import Formwright.FormFile
import Formwright.Proofs.Form.Default
import Formwright.Proofs.Form.ItemFaults
import Formwright.Proofs.Form.Faults
import Formwright.Proofs.Render.Verdict
import Formwright.Proofs.Toml.Data

/-!
# Choices in form files

A file can only list the choices of an input, since it holds data. In a form that is read from one,
and in the default form of a model, the choices are therefore the same in every render, and they are
a list. If every number in the file can be written, so can everything in it that is no declaration:
whatever is wrong with the form or its rows has a place.

- `Declaration.IsListed`, `Node.IsListed`: declarations before and after they are compiled.
- `compiled_listed`: what is compiled from lists has lists.
- `load_listed`: what is loaded from data has lists.
- `FormFile.tree_listed`: the form of a file.
-/

namespace Formwright

open Form Outcome

/-! ## Declarations -/

/-- As the choices of an input, the value is a list or is refused as one. -/
def Value.isListing : Value → Bool
  | .computed (.related _ v) => v.membersOrNone.isOk
  | .computed (.function _) => false
  | _ => true

theorem Value.isListing_of_data {v : Value} (data : v.isData = true) : v.isListing = true := by
  cases v with
  | computed source => cases data
  | _ => rfl

/-- All options could be the choices of an input. -/
def areListings (options : List (String × Value)) : Bool := options.all (·.2.isListing)

mutual

/-- The choices of all inputs are listed, and what is no declaration can be written, in groups and in
the rows that are built for any record as well. -/
def Declaration.IsListed : Declaration → Prop
  | .input _ options => areListings options = true
  | .collection _ options => areListings options = true
  | .group _ (some body) _ => Declaration.AreListed body
  | .hasMany _ (some rows) _ => ∀ record, (rows record).IsListed
  | .actions (some body) => Declaration.AreListed body
  | .unknown v => v.isShowable = true
  | _ => True

def Declaration.AreListed : List Declaration → Prop
  | [] => True
  | d :: rest => d.IsListed ∧ Declaration.AreListed rest

def Description.IsListed : Description → Prop
  | .declarations ds => Declaration.AreListed ds
  | .other _ => True
  | .failed _ => False

end

theorem Declaration.areListed_iff {ds : List Declaration} :
    Declaration.AreListed ds ↔ ∀ d ∈ ds, d.IsListed := by
  induction ds with
  | nil => simp [AreListed]
  | cons d rest ih => simp [AreListed, ih]

/-- What is found among declarations by steps through groups is listed if they are. -/
theorem Declaration.Within.isListed {ds : List Declaration} {way : List Step} {d : Declaration}
    (within : Within ds way d) (listed : Declaration.AreListed ds) : d.IsListed := by
  induction within with
  | here mem => exact Declaration.areListed_iff.mp listed _ mem
  | group mem _ ih =>
    refine ih ?_
    simpa only [Declaration.IsListed] using Declaration.areListed_iff.mp listed _ mem
  | actions mem _ ih =>
    refine ih ?_
    simpa only [Declaration.IsListed] using Declaration.areListed_iff.mp listed _ mem

/-- What is wrong with declarations that are listed has a place. -/
theorem Form.located_of_areListed {ds : List Declaration} (listed : Declaration.AreListed ds)
    {path : List Step} {f : FormFault} (wrong : f ∈ faultsAll path ds) :
    ∃ way cause, f = .located way cause := by
  obtain ⟨way, d, within, own⟩ := mem_faultsAll.mp wrong
  have written : d.unwritten = [] := by
    have isListed := within.isListed listed
    cases d with
    | unknown v =>
      simp only [Declaration.IsListed] at isListed
      rw [Declaration.unwritten, if_pos isListed]
    | _ => rfl
  rw [ownFaults, written, List.map_nil, List.append_nil] at own
  obtain ⟨cause, -, rfl⟩ := List.mem_map.mp own
  exact ⟨_, cause, rfl⟩

/-! ## Nodes -/

open Render in
/-- The choices of an input are a list that does not depend on what is rendered, and what is wrong
with rows has a place. -/
def Form.Node.IsListed (r : Renderer) : Form.Node → Prop
  | .input _ o => r.HasConstantItems o
  | .hasMany _ rows _ => ∀ record, (rows record).isLocated = true
  | _ => True

section

variable {r : Render.Renderer}

theorem collection_listed {v : Value} (listing : v.isListing = true) {o : FieldOptions}
    (checked : Rule.optional Collection.rule v = .good o.collection) : r.HasConstantItems o := by
  unfold Render.Renderer.HasConstantItems
  generalize o.collection = c at checked ⊢
  cases v with
  | none =>
    cases checked
    exact ⟨[], fun _ _ => rfl⟩
  | list items =>
    cases checked
    exact ⟨items, fun _ _ => rfl⟩
  | tuple items =>
    cases checked
    exact ⟨items, fun _ _ => rfl⟩
  | computed source =>
    cases checked
    cases source with
    | function name => cases listing
    | related model w =>
      obtain ⟨items, members⟩ := exists_of_isOk (x := w.membersOrNone) listing
      refine ⟨items, fun c record => ?_⟩
      change (w.membersOrNone >>= fun given => pure (given, _)).map Prod.fst = _
      rw [members]
      rfl
  | _ => cases checked

/-- Options that pass have the choices that they were given. -/
theorem check_listed {options : List (String × Value)} (listings : areListings options = true)
    {o : FieldOptions} (checked : FieldOptions.check options = .good o) :
    r.HasConstantItems o := by
  have found := Form.check_collection checked
  unfold Rule.withDefault at found
  split at found
  · rename_i v given
    obtain ⟨before, after, split, -⟩ := List.lookup_eq_some_iff.mp given
    have listing : v.isListing = true :=
      List.all_eq_true.mp listings ("collection", v) (by simp [split])
    exact collection_listed listing (under_eq_good found)
  · unfold Render.Renderer.HasConstantItems
    rw [← Checked.good.inj found]
    exact ⟨[], fun _ _ => rfl⟩

/-! ## What is compiled -/

namespace Form

mutual

/-- **A compiled node** has lists of choices if its declaration has, in the rows that its builder
gives as well. -/
theorem compiled_listed : ∀ (d : Declaration) {n : Node}, Compiled d n →
    d.IsListed → n.Everywhere (Node.IsListed r)
  | .input _ _, _, .input checked, listed => check_listed listed checked
  | .collection _ _, _, .collection checked _, listed => check_listed listed checked
  | .group _ (some body) _, _, .group _ each, listed =>
    ⟨trivial, allCompiled_listed body each listed⟩
  | .hasMany _ (some builder) _, _, .hasMany _, listed =>
    ⟨fun record => (row_listed (builder record) (listed record)).1,
      fun record => (row_listed (builder record) (listed record)).2⟩
  | .actions (some body), _, .actions each, listed =>
    ⟨trivial, allCompiled_listed body each listed⟩
  | .content _ _, _, .content _ _, _ => trivial

theorem allCompiled_listed : ∀ (ds : List Declaration) {ns : List Node},
    List.Forall₂ Compiled ds ns → Declaration.AreListed ds →
    Node.AllEverywhere (Node.IsListed r) ns
  | [], _, .nil, _ => trivial
  | d :: rest, _, .cons head tail, listed =>
    ⟨compiled_listed d head listed.1, allCompiled_listed rest tail listed.2⟩

theorem row_listed : ∀ (rows : Description), rows.IsListed →
    (compileRow rows).isLocated = true ∧ (compileRow rows).Everywhere (Node.IsListed r)
  | .declarations ds, listed => by
    simp only [compileRow]
    cases compiled : compileAll false [] ds with
    | error fault =>
      obtain ⟨rest, faults⟩ := ((compileAll_first ds []).error_iff fault).mp compiled
      obtain ⟨way, cause, rfl⟩ := located_of_areListed (f := fault) listed
        (by rw [faults]; exact List.mem_cons_self)
      exact ⟨rfl, trivial⟩
    | ok level => exact ⟨rfl, allCompiled_listed ds (compileAll_levelOf ds compiled).all listed⟩
  | .other kind, _ => by
    simp only [compileRow]
    exact ⟨rfl, trivial⟩

end

/-- A form of declarations that are listed has lists of choices, or it is refused for something that
has a place. -/
theorem ofDescription_listed {ds : List Declaration} (listed : Declaration.AreListed ds)
    (resource : String) :
    Yields (fun t => Node.AllEverywhere (Node.IsListed r) t.nodes)
        (Tree.ofDescription (some (.declarations ds)) resource) ∧
      FailsWith (fun e => ∃ path cause, e = .form resource path cause)
        (Tree.ofDescription (some (.declarations ds)) resource) := by
  have kept : Declaration.AreListed (ds.filter (!·.isScript)) := by
    rw [Declaration.areListed_iff] at listed ⊢
    exact fun d mem => listed d (List.mem_filter.mp mem).1
  unfold Tree.ofDescription compileTop
  split
  · rename_i level compiled
    have nodes := allCompiled_listed (r := r) _ (compileAll_levelOf ds compiled).each kept
    refine ⟨.ok ?_, .ok _⟩
    dsimp only [Level.withScript]
    split
    · rename_i script _
      rw [Node.allEverywhere_iff] at nodes ⊢
      intro n mem
      rcases List.mem_append.mp mem with mem | last
      · exact nodes n mem
      · rw [List.mem_singleton.mp last]
        trivial
    · exact nodes
  · rename_i fault refused
    obtain ⟨rest, faults⟩ := ((compileAll_top_first ds).error_iff fault).mp refused
    obtain ⟨way, cause, rfl⟩ := located_of_areListed (f := fault) kept
      (by rw [faults]; exact List.mem_cons_self)
    exact ⟨.error _, .error ⟨way, cause, rfl⟩⟩

/-- The declarations of a default form are listed if the loader gives lists. -/
theorem defaultInputs_listed {loader : Loader}
    (lists : ∀ model, (loader model).membersOrNone.isOk = true) (m : Model)
    (excluded : List String) : Declaration.AreListed (defaultInputs m (some loader) excluded) := by
  rw [defaultInputs_eq, Declaration.areListed_iff]
  intro d mem
  obtain ⟨field, -, rfl⟩ := List.mem_map.mp mem
  unfold defaultDeclaration
  split
  · rename_i a load stored given
    cases given
    simpa [Declaration.IsListed, areListings, Value.isListing] using lists a.relatedModel
  · rfl

end Form

end

namespace Form

/-! ## What is loaded -/

namespace Items

theorem namedOptions_listed {taken : List String} {options : List (Value × Value)}
    (stored : (Value.table options).IsStored) :
    Yields (fun named => areListings named = true) (Declaration.namedOptions taken options) := by
  have named : Yields (fun named => ∀ e ∈ named, e.2.isListing = true) (Value.byName options) := by
    refine Yields.mapM fun e mem => ?_
    have data := (stored.of_entry mem).data
    split
    · exact .ok (Value.isListing_of_data data)
    · exact .error _
  refine named.bind fun named each => ?_
  split
  · exact .error _
  · exact .ok (List.all_eq_true.mpr each)

theorem ofInput_listed (field : Value) {options : List (Value × Value)}
    (stored : (Value.table options).IsStored) :
    Yields Declaration.IsListed (Declaration.ofInput field options) := by
  refine (namedOptions_listed stored).bind fun named listed => ?_
  exact .after fun name => .ok listed

theorem ofCollection_listed (field : Value) {collection : Value}
    (fixed : collection.IsStored) {options : List (Value × Value)}
    (stored : (Value.table options).IsStored) :
    Yields Declaration.IsListed (Declaration.ofCollection field collection options) := by
  refine (namedOptions_listed stored).bind fun named listed => ?_
  refine .after fun name => .ok ?_
  change areListings (("collection", collection) :: named) = true
  rw [areListings, List.all_cons, Value.isListing_of_data fixed.data]
  exact listed

theorem ofHasMany_listed (field : Value) {builder : Option RowBuilder}
    (rows : ∀ rows ∈ builder, ∀ record, (rows record).IsListed)
    (options : List (Value × Value)) :
    Yields Declaration.IsListed (Declaration.ofHasMany field builder options) := by
  refine .after fun named => .after fun name => .ok ?_
  cases builder with
  | none => trivial
  | some builder => exact rows builder rfl

/-- What is loaded of a body, if there is any, is listed. -/
abbrev BodyIsListed (body : Option (List Declaration)) : Prop :=
  ∀ ds ∈ body, Declaration.AreListed ds

theorem group_listed (label : String) {body : Option (List Declaration)}
    (listed : BodyIsListed body) (options : List (String × Value)) :
    (Declaration.group label body options).IsListed := by
  cases body with
  | none => trivial
  | some ds => exact listed ds rfl

/-- The members of a value in the place of a body are no declarations, but they can be written. -/
theorem bodyOf_listed {v : Value} (stored : v.IsStored) :
    Yields BodyIsListed (Declaration.bodyOf v) := by
  unfold Declaration.bodyOf
  split
  · refine .ok fun ds given => ?_
    cases given
  · refine stored.members.bind fun items each => .ok fun ds given => ?_
    cases given
    rw [Declaration.areListed_iff]
    intro d mem
    obtain ⟨v, isItem, rfl⟩ := List.mem_map.mp mem
    exact (each v isItem).showable

theorem ofLabelled_listed {label : Value} (stored : label.IsStored)
    {body : Option (List Declaration)} (listed : BodyIsListed body)
    (options : List (Value × Value)) :
    Yields Declaration.IsListed (Declaration.ofLabelled label (.ok body) options) := by
  refine .after fun named => ?_
  split
  · change Yields Declaration.IsListed (Declaration.ofGroup label body named)
    exact .after fun text => .ok (group_listed text listed named)
  · exact (bodyOf_listed stored).bind fun body listed =>
      .after fun text => .ok (group_listed text listed named)

theorem declaration_listed (path : String) {entries : List (Value × Value)}
    (stored : (Value.table entries).IsStored)
    {children : Except Fault (Option (List Declaration))} (inner : Yields BodyIsListed children) :
    Yields Declaration.IsListed (declaration path entries children) := by
  have field : ∀ name {fallback : Value}, fallback.IsStored →
      (fieldOr entries name fallback).IsStored := by
    intro name fallback fixed
    unfold fieldOr
    cases found : Value.named? entries name with
    | none => exact fixed
    | some v => exact stored.of_named found
  unfold declaration
  split
  · exact .error _
  · refine (field "options" ⟨rfl, rfl⟩).entriesOf.bind fun options optionsStored => ?_
    dsimp only
    split
    · exact ofInput_listed _ optionsStored
    · split
      · exact inner.bind fun body listed => ofLabelled_listed (field "label" ⟨rfl, rfl⟩) listed options
      · split
        · refine ofCollection_listed _ ?_ ?_
          · cases found : Value.named? options "collection" with
            | none => exact ⟨rfl, rfl⟩
            | some v => exact optionsStored.of_named found
          · exact optionsStored.filter _
        · split
          · refine inner.bind fun body listed =>
              ofHasMany_listed _ (fun rows made record => ?_) options
            obtain ⟨ds, given, rfl⟩ := Option.map_eq_some_iff.mp made
            exact listed ds given
          · split
            · refine inner.bind fun body listed => .ok ?_
              cases body with
              | none => trivial
              | some ds => exact listed ds rfl
            · split
              · exact .after fun _ => .ok trivial
              · split
                · exact .after fun _ => .ok trivial
                · split
                  · exact .after fun _ => .ok trivial
                  · split <;> exact .error _

mutual

/-- **What is loaded from data** is listed. -/
theorem load_listed : ∀ (v : Value) (path : String), v.IsStored →
    Yields Declaration.AreListed (load path v)
  | .list items, path, stored => by
    rw [load]
    exact loadFrom_listed items path 0 fun v mem => stored.of_mem mem
  | .none, _, _ | .bool _, _, _ | .int _, _, _ | .float _, _, _ | .decimal _, _, _
  | .text _, _, _ | .markup _, _, _ | .date _, _, _ | .time _, _, _ | .datetime _ _, _, _
  | .zone _, _, _ | .step _, _, _ | .tuple _, _, _ | .table _, _, _ | .object _, _, _
  | .computed _, _, _ => by
    simp only [load]
    exact .error _

theorem loadFrom_listed : ∀ (vs : List Value) (path : String) (index : Nat),
    (∀ v ∈ vs, v.IsStored) → Yields Declaration.AreListed (loadFrom path index vs)
  | [], path, index, _ => by
    rw [loadFrom]
    exact .ok trivial
  | v :: rest, path, index, stored => by
    rw [loadFrom]
    refine (loadItem_listed v (itemPath path index) (stored v List.mem_cons_self)).bind
      fun d first => ?_
    refine (loadFrom_listed rest path (index + 1) fun w mem =>
      stored w (List.mem_cons_of_mem v mem)).bind fun ds others => .ok ?_
    exact ⟨first, others⟩

theorem loadItem_listed : ∀ (v : Value) (path : String), v.IsStored →
    Yields Declaration.IsListed (loadItem path v)
  | .table entries, path, stored => by
    rw [loadItem]
    exact declaration_listed path stored
      (loadChildren_listed entries path fun e mem => stored.of_entry mem)
  | .none, _, _ | .bool _, _, _ | .int _, _, _ | .float _, _, _ | .decimal _, _, _
  | .text _, _, _ | .markup _, _, _ | .date _, _, _ | .time _, _, _ | .datetime _ _, _, _
  | .zone _, _, _ | .step _, _, _ | .list _, _, _ | .tuple _, _, _ | .object _, _, _
  | .computed _, _, _ => by
    simp only [loadItem]
    exact .error _

theorem loadChildren_listed : ∀ (entries : List (Value × Value)) (path : String),
    (∀ e ∈ entries, e.2.IsStored) → Yields BodyIsListed (loadChildren path entries)
  | [], path, _ => by
    rw [loadChildren]
    refine .ok fun ds given => ?_
    cases given
  | (key, v) :: rest, path, stored => by
    rw [loadChildren]
    split
    · split
      · refine .ok fun ds given => ?_
        cases given
      · refine Yields.map (load_listed v (itemsPath path) (stored _ List.mem_cons_self)) ?_
        intro ds listed ds' given
        cases given
        exact listed
    · exact loadChildren_listed rest path fun e mem => stored e (List.mem_cons_of_mem _ mem)

end

end Items

end Form

/-! ## The form of a file -/

/-- Every whole number in a document can be written in decimal digits. Those that are read from
decimal digits can be; those in another base may have too many. -/
def Toml.WritesNumbers (source : String) : Prop :=
  ∀ entries, Toml.parse source = .ok entries →
    (Value.table entries).isShowable = true

namespace FormFile

theorem textEntries_stored {entries : List (Value × Value)}
    (stored : (Value.table entries).IsStored) :
    ∀ e ∈ Rule.textEntries entries, e.2.IsStored := by
  intro e mem
  obtain ⟨given, found, named⟩ := List.mem_filterMap.mp mem
  obtain ⟨name, -, rfl⟩ := Option.map_eq_some_iff.mp named
  exact stored.of_entry found

theorem lookup_stored {entries : List (String × Value)}
    (stored : ∀ e ∈ entries, e.2.IsStored) {name : String} {v : Value}
    (found : entries.lookup name = some v) : v.IsStored := by
  obtain ⟨before, after, split, -⟩ := List.lookup_eq_some_iff.mp found
  exact stored (name, v) (by simp [split])

theorem formIn_stored {path : Path} {file : List (String × Value)}
    (stored : ∀ e ∈ file, e.2.IsStored) :
    Yields (fun form => ∀ e ∈ form, e.2.IsStored) (formIn path file) := by
  unfold formIn
  split
  · rename_i entries found
    dsimp only
    split
    · exact .ok (textEntries_stored (lookup_stored stored found))
    · exact .error _
  · exact .error _

theorem declarationsIn_listed (path : Path) {form : List (String × Value)}
    (stored : ∀ e ∈ form, e.2.IsStored) :
    Yields Items.BodyIsListed (declarationsIn path form) := by
  unfold declarationsIn
  split
  · refine .ok fun ds given => ?_
    cases given
  · rename_i items found
    split
    · rename_i ds loaded
      refine .ok fun ds' given => ?_
      cases given
      exact Items.load_listed items _ (lookup_stored stored found) ds loaded
    · exact .error _
    · exact .error _

theorem ofToml_listed (path : Path) {source : String} (numbers : Toml.WritesNumbers source) :
    Yields (fun file => Items.BodyIsListed file.declarations) (ofToml path source) := by
  unfold ofToml
  cases parsed : Toml.parse source with
  | error flaw => cases flaw <;> exact .error _
  | ok entries =>
    have stored := textEntries_stored
      ⟨Toml.parse_data source entries parsed, numbers entries parsed⟩
    refine (formIn_stored stored).bind fun form formStored => .after fun errors => ?_
    refine (declarationsIn_listed path formStored).bind fun declarations listed => ?_
    intro file checked
    cases good : check (Rule.textEntries entries) form declarations errors with
    | bad issues =>
      rw [good] at checked
      cases checked
    | good loaded =>
      rw [good] at checked
      cases checked
      simp only [check, Checked.seq_eq_good, Checked.map_eq_good] at good
      -- what is checked after the declarations, from the last to the first
      iterate 7 obtain ⟨_, _, good, -, rfl⟩ := good
      obtain ⟨_, _, ⟨_, -, rfl⟩, given, rfl⟩ := good
      cases given
      exact listed

/-- **The form of a file** has lists of choices. If there is none, then the model is not known or what
is wrong has a place. -/
theorem tree_listed {path : Path} {source : String} (numbers : Toml.WritesNumbers source)
    {file : FormFile} (read : ofToml path source = .ok file) (excluded : List String)
    (r : Render.Renderer) :
    Yields (fun t => Node.AllEverywhere (Node.IsListed r) t.nodes) (file.tree excluded) ∧
      FailsWith (fun e => e.isUnknown = true ∨ ∃ path cause, e = .form file.resource path cause)
        (file.tree excluded) := by
  have declared := ofToml_listed path numbers file read
  unfold tree
  split
  · rename_i ds given
    obtain ⟨listed, located⟩ := ofDescription_listed (r := r) (declared ds given) file.resource
    exact ⟨listed, located.mono fun _ => .inr⟩
  · have lists : ∀ model, (file.related model).membersOrNone.isOk = true := by
      intro model
      unfold related Value.membersOrNone
      split <;> rfl
    have default : ∀ m, Declaration.AreListed
        [.group "" (some (defaultInputs m (some file.related) excluded)) []] :=
      fun m => ⟨defaultInputs_listed lists m excluded, trivial⟩
    refine ⟨.after fun m => (ofDescription_listed (default m) file.resource).1, ?_⟩
    refine ((file.schema.model_unknown file.resource).mono fun _ => .inl).bind fun m _ => ?_
    exact (ofDescription_listed (r := r) (default m) file.resource).2.mono fun _ => .inr

end FormFile

end Formwright
