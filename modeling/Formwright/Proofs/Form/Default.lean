import Formwright.Form.Default
import Formwright.Proofs.Outcome

/-!
# The default form of a model

A default form has one input for every field that it shows, in the order of the model. A field that
stores a belongs-to association, which is named like the field without its `_id`, stands for its
association if there is a loader for the related records, and is left out if there is none.

- `Association.IsStoredIn`, `storedAssociation?_eq_some`: fields that store an association.
- `shownFields`, `defaultNode`, `defaultTree`: the fields of a default form and their inputs.
- `default_compiles`: the default form of a model whose fields have names.
-/

namespace Formwright

/-- The association is a belongs-to association that the field stores: the field is its owner key
and is named after it. -/
structure Association.IsStoredIn (a : Association) (m : Model) (field : String) : Prop where
  listed : m.association? a.name = some a
  one : a.cardinality = .one
  key : a.ownerKey = field
  named : field = a.name ++ "_id"

/-- The fields of the model have names, also without a final `_id`. -/
def Model.HasNames (m : Model) : Prop :=
  ∀ f ∈ m.fields, Text.allBlank f.name = false ∧
    ∀ base, f.name = base ++ "_id" → Text.allBlank base = false

namespace Form

open Outcome

variable {m : Model} {loader : Option Loader} {excluded : List String} {field : String}

/-! ## Fields that store an association -/

theorem keyedName?_eq_some {base : String} :
    keyedName? field = some base ↔ field = base ++ "_id" := by
  unfold keyedName?
  split
  · rename_i ends
    rw [Text.endsWith, List.isSuffixOf_iff_suffix] at ends
    obtain ⟨start, whole⟩ := ends
    have dropped : Text.dropEnd 3 field.toList = start := by simp [Text.dropEnd, ← whole]
    rw [dropped, Option.some_inj, ← String.toList_inj, ← String.toList_inj, ← whole]
    simp
  · rename_i other
    refine ⟨nofun, fun h => (other ?_).elim⟩
    rw [Text.endsWith, List.isSuffixOf_iff_suffix, h, String.toList_append]
    exact List.suffix_append _ _

theorem association?_name {name : String} {a : Association} (h : m.association? name = some a) :
    a.name = name := by
  have found := List.find?_some h
  exact beq_iff_eq.mp found

/-- What is found for a field is the association that it stores. -/
theorem storedAssociation?_eq_some {a : Association} :
    storedAssociation? m field = some a ↔ a.IsStoredIn m field := by
  constructor
  · intro h
    unfold storedAssociation? at h
    split at h
    · rename_i b found
      obtain ⟨base, keyed, listed⟩ := Option.bind_eq_some_iff.mp found
      split at h
      · rename_i stored
        cases h
        rw [Bool.and_eq_true, beq_iff_eq, beq_iff_eq] at stored
        obtain rfl := association?_name listed
        exact ⟨listed, stored.1, stored.2, keyedName?_eq_some.mp keyed⟩
      · cases h
    · cases h
  · intro stored
    have keyed : keyedName? field = some a.name := keyedName?_eq_some.mpr stored.named
    have found : (keyedName? field >>= m.association?) = some a := by
      rw [keyed]
      exact stored.listed
    simp [storedAssociation?, found, stored.one, stored.key]

/-! ## The form -/

/-- The fields that are not excluded, in their order. -/
def keptFields (m : Model) (excluded : List String) : List String :=
  (m.fields.map (·.name)).filter fun field => !excluded.contains field

/-- The fields of a default form: those that are not excluded and, without a loader, store no
association. -/
def shownFields (m : Model) (loader : Option Loader) (excluded : List String) : List String :=
  match loader with
  | some _ => keptFields m excluded
  | none => (keptFields m excluded).filter fun field => (storedAssociation? m field).isNone

/-- The options of the input of an association. -/
def loading (a : Association) (load : Loader) : FieldOptions :=
  { FieldOptions.standard with
    collection := some (.computed (.related a.relatedModel (load a.relatedModel))) }

/-- The input of a field. -/
def defaultNode (m : Model) (loader : Option Loader) (field : String) : Node :=
  match storedAssociation? m field, loader with
  | some a, some load => .input a.name (loading a load)
  | _, _ => .input field .standard

/-- One group without a label and without options, of the inputs of the fields that are shown. -/
def defaultTree (m : Model) (model : String) (loader : Option Loader) (excluded : List String) :
    Tree :=
  ⟨model, [.fieldset "" ((shownFields m loader excluded).map (defaultNode m loader)) .standard]⟩

/-- The declaration of a field that is shown. -/
def defaultDeclaration (m : Model) (loader : Option Loader) (field : String) : Declaration :=
  match storedAssociation? m field, loader with
  | some a, some load => .input a.name
      [("collection", .computed (.related a.relatedModel (load a.relatedModel)))]
  | _, _ => .input field []

theorem mem_keptFields (h : field ∈ keptFields m excluded) : ∃ f ∈ m.fields, f.name = field :=
  List.mem_map.mp (List.mem_filter.mp h).1

theorem mem_shownFields (h : field ∈ shownFields m loader excluded) :
    ∃ f ∈ m.fields, f.name = field := by
  cases loader with
  | some load => exact mem_keptFields h
  | none => exact mem_keptFields (List.mem_filter.mp h).1

/-- A field that is shown has an input of its own, or one for the association that it stores. -/
theorem defaultNode_cases (shown : field ∈ shownFields m loader excluded) :
    storedAssociation? m field = none ∧ defaultNode m loader field = .input field .standard ∨
      ∃ a load, storedAssociation? m field = some a ∧ loader = some load ∧
        defaultNode m loader field = .input a.name (loading a load) := by
  unfold defaultNode
  cases stored : storedAssociation? m field with
  | none => exact .inl ⟨rfl, rfl⟩
  | some a =>
    cases loader with
    | some load => exact .inr ⟨a, load, rfl, rfl, rfl⟩
    | none =>
      have absent := (List.mem_filter.mp shown).2
      rw [stored] at absent
      cases absent

theorem defaultInput?_loaded (load : Loader) (field : String) :
    defaultInput? m (some load) field = some (defaultDeclaration m (some load) field) := by
  unfold defaultInput? defaultDeclaration
  cases storedAssociation? m field <;> rfl

theorem defaultInput?_unloaded (field : String) :
    defaultInput? m none field =
      if (storedAssociation? m field).isNone then some (defaultDeclaration m none field)
      else none := by
  unfold defaultInput? defaultDeclaration
  cases storedAssociation? m field <;> rfl

/-- The fields that are shown have a declaration, and no others have one. -/
theorem defaultInputs_eq : defaultInputs m loader excluded =
    (shownFields m loader excluded).map (defaultDeclaration m loader) := by
  -- one pass drops excluded fields and stored associations alike; excluded ones are dropped first
  have kept : defaultInputs m loader excluded =
      (keptFields m excluded).filterMap (defaultInput? m loader) := by
    unfold defaultInputs keptFields
    rw [List.filterMap_filter]
    congr 1
    funext field
    cases excluded.contains field <;> rfl
  rw [kept]
  unfold shownFields
  cases loader with
  | some load =>
    rw [funext (defaultInput?_loaded load), List.filterMap_eq_map']
  | none =>
    rw [funext defaultInput?_unloaded, ← List.filterMap_eq_map', List.filterMap_filter]

/-- Declarations of inputs become inputs, one for one. -/
theorem compileAll_inputs {top : Bool} {path : List Step} {fields : List String}
    {declare : String → Declaration} {node : String → Node}
    (each : ∀ field ∈ fields, ∃ name options, declare field = .input name options ∧
      compile path (.input name options) = .ok (node field)) :
    compileAll top path (fields.map declare) = .ok ⟨fields.map node, none⟩ := by
  induction fields with
  | nil => rw [List.map_nil, compileAll, List.map_nil]
  | cons field rest ih =>
    obtain ⟨name, options, declared, compiled⟩ := each field List.mem_cons_self
    have others := ih fun other mem => each other (List.mem_cons_of_mem field mem)
    rw [List.map_cons, declared, compileAll, compiled, ok_bind, others]
    · rfl
    · intro _ isScript
      cases isScript

theorem compile_input {path : List Step} {name : String} {options : List (String × Value)}
    {checked : FieldOptions} (named : Text.allBlank name = false)
    (good : FieldOptions.check options = .good checked) :
    compile path (.input name options) = .ok (.input name checked) := by
  rw [compile, checkName, named, checkOptions, good]
  rfl

/-- The declaration of a field compiles to its input. -/
theorem compile_default (named : m.HasNames) {f : FieldSpec} (mem : f ∈ m.fields)
    (path : List Step) : ∃ name options, defaultDeclaration m loader f.name = .input name options ∧
      compile path (.input name options) = .ok (defaultNode m loader f.name) := by
  obtain ⟨own, base⟩ := named f mem
  have plain : compile path (.input f.name []) = .ok (.input f.name .standard) :=
    compile_input own rfl
  unfold defaultDeclaration defaultNode
  cases stored : storedAssociation? m f.name with
  | none => exact ⟨f.name, [], rfl, plain⟩
  | some a =>
    cases loader with
    | none => exact ⟨f.name, [], rfl, plain⟩
    | some load =>
      have keyed := (storedAssociation?_eq_some.mp stored).named
      exact ⟨a.name, _, rfl, compile_input (base a.name keyed) rfl⟩

/-- Nothing is grouped in inputs. -/
theorem walk_inputs {ns : List Node} (inputs : ∀ n ∈ ns, ∃ field o, n = .input field o) :
    walkAll ns = ns := by
  induction ns with
  | nil => rw [walkAll]
  | cons n rest ih =>
    obtain ⟨field, o, rfl⟩ := inputs n List.mem_cons_self
    have others := ih fun other mem => inputs other (List.mem_cons_of_mem _ mem)
    simp only [walkAll, Node.walk, others, List.cons_append, List.nil_append]

/-- **The default form.** It is the group of the inputs of the fields that are shown. -/
theorem default_compiles {schema : Schema} {model : String} (found : schema.model model = .ok m)
    (named : m.HasNames) : Tree.default schema model loader excluded =
      .ok (defaultTree m model loader excluded) := by
  have inputs : compileAll false [.group ""] (defaultInputs m loader excluded) =
      .ok ⟨(shownFields m loader excluded).map (defaultNode m loader), none⟩ := by
    rw [defaultInputs_eq]
    refine compileAll_inputs fun field shown => ?_
    obtain ⟨f, mem, rfl⟩ := mem_shownFields shown
    exact compile_default named mem _
  have group : compile [] (.group "" (some (defaultInputs m loader excluded)) []) =
      .ok (.fieldset "" ((shownFields m loader excluded).map (defaultNode m loader))
        .standard) := by
    rw [compile]
    simp only [List.nil_append, inputs]
    rfl
  have top : compileTop (some (.declarations
      [.group "" (some (defaultInputs m loader excluded)) []])) = .ok ⟨[.fieldset ""
        ((shownFields m loader excluded).map (defaultNode m loader)) .standard], none⟩ := by
    rw [compileTop, compileAll, group, ok_bind, compileAll]
    · rfl
    · intro _ isScript
      cases isScript
  rw [Tree.default, found, ok_bind, Tree.ofDescription, top]
  rfl

end Form

end Formwright
