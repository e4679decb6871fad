import Mathlib.Data.List.Forall2
import Formwright.Form.Compile
import Formwright.Proofs.Form.Everywhere
import Formwright.Proofs.Outcome

/-!
# The order of a compiled form

Compiling a form keeps every declaration in its place. `Compiled` says which node a declaration
becomes, with its name, label, content and checked options; a script becomes none. The scripts of the
top level are the one thing that moves: the last of them is the last node of the form.

- `Compiled`: a declaration and its node.
- `flat`, `flatAll`: declarations depth first, like `Node.walk` and `walkAll`.
- `compile_compiled`, `compileAll_levelOf`: one level and what is grouped in it.
- `ofDescription_order`: a whole form.
-/

namespace Formwright

open Outcome

/-! ## Declarations -/

namespace Declaration

/-- The script of a declaration. -/
def script? : Declaration → Option String
  | .script s => some s
  | _ => none

/-- The declaration is a script. -/
def isScript (d : Declaration) : Bool := d.script?.isSome

/-- The field of an input, of a choice of related records or of rows. -/
def fieldName? : Declaration → Option String
  | .input field _ => some field
  | .collection field _ => some field
  | .hasMany field _ _ => some field
  | _ => none

/-- The script declared last. -/
def lastScript? (ds : List Declaration) : Option String := (ds.filterMap (·.script?)).getLast?

mutual

/-- A declaration and what is grouped in it, depth first; a script is passed over. -/
def flat : Declaration → List Declaration
  | .group label (some body) options => .group label (some body) options :: flatAll body
  | .actions (some body) => .actions (some body) :: flatAll body
  | .script _ => []
  | d => [d]

/-- Declarations and what is grouped in them, depth first. -/
def flatAll : List Declaration → List Declaration
  | [] => []
  | d :: rest => d.flat ++ flatAll rest

end

theorem eq_script {d : Declaration} (h : d.isScript = true) : ∃ s, d = .script s := by
  cases d with
  | script s => exact ⟨s, rfl⟩
  | _ => cases h

theorem lastScript?_script (s : String) (rest : List Declaration) :
    lastScript? (.script s :: rest) = some ((lastScript? rest).getD s) := by
  change (s :: rest.filterMap (·.script?)).getLast? = _
  rw [List.getLast?_cons, lastScript?]

theorem lastScript?_other {d : Declaration} (other : d.isScript = false)
    (rest : List Declaration) : lastScript? (d :: rest) = lastScript? rest := by
  have none : d.script? = none := by simpa [isScript] using other
  rw [lastScript?, List.filterMap_cons_none none]
  rfl

end Declaration

namespace Form

open Declaration

/-! ## Nodes -/

/-- The script of a node. -/
def Node.script? : Node → Option String
  | .script s => some s
  | _ => none

/-- The node is a script. -/
def Node.isScript (n : Node) : Bool := n.script?.isSome

/-- The node of a declaration. The nodes of a body are those of its declarations, one for one and in
order. There is none for a script, so a body with a script has no nodes. -/
inductive Compiled : Declaration → Node → Prop where
  | input {field : String} {options : List (String × Value)} {o : FieldOptions}
      (checked : FieldOptions.check options = .good o) :
      Compiled (.input field options) (.input field o)
  | collection {field : String} {options : List (String × Value)} {o : FieldOptions}
      (checked : FieldOptions.check options = .good o) (given : o.collection.isSome = true) :
      Compiled (.collection field options) (.input field o)
  | group {label : String} {body : List Declaration} {ns : List Node}
      {options : List (String × Value)} {o : FieldOptions}
      (checked : FieldOptions.check options = .good o)
      (each : List.Forall₂ Compiled body ns) :
      Compiled (.group label (some body) options) (.fieldset label ns o)
  | hasMany {field : String} {builder : RowBuilder} {options : List (String × Value)}
      {o : FieldOptions} (checked : FieldOptions.check options = .good o) :
      Compiled (.hasMany field (some builder) options)
        (.hasMany field (fun record => compileRow (builder record)) o)
  | actions {body : List Declaration} {ns : List Node} (each : List.Forall₂ Compiled body ns) :
      Compiled (.actions (some body)) (.actions ns)
  | content (content : String) (isMarkup : Bool) :
      Compiled (.content content isMarkup) (.content content isMarkup)

theorem Compiled.isScript_right {d : Declaration} {n : Node} (h : Compiled d n) :
    n.isScript = false := by
  cases h <;> rfl

theorem Compiled.fieldName? {d : Declaration} {n : Node} (h : Compiled d n) :
    n.fieldName? = d.fieldName? := by
  cases h <;> rfl

/-! ## One level -/

theorem checkOptions_ok {path : List Step} {options : List (String × Value)} {o : FieldOptions}
    (h : checkOptions path options = .ok o) : FieldOptions.check options = .good o := by
  unfold checkOptions at h
  cases checked : FieldOptions.check options with
  | good o' =>
    rw [checked] at h
    cases h
    rfl
  | bad issues =>
    rw [checked] at h
    cases h

/-- The nodes and the script of one level. -/
structure LevelOf (top : Bool) (ds : List Declaration) (level : Level) : Prop where
  each : List.Forall₂ Compiled (ds.filter (!·.isScript)) level.nodes
  script : level.script = lastScript? ds
  below : top = false → ∀ d ∈ ds, d.isScript = false

theorem LevelOf.all {ds : List Declaration} {level : Level} (h : LevelOf false ds level) :
    List.Forall₂ Compiled ds level.nodes := by
  have kept : ds.filter (!·.isScript) = ds := by
    rw [List.filter_eq_self]
    intro d hd
    simp [h.below rfl d hd]
  exact kept ▸ h.each

mutual

/-- A declaration that compiles becomes its node. -/
theorem compile_compiled : ∀ (d : Declaration), d.isScript = false → ∀ {path : List Step}
    {n : Node}, compile path d = .ok n → Compiled d n
  | .input field options, _, path, n, h => by
    simp only [compile] at h
    obtain ⟨-, -, h⟩ := bind_eq_ok.mp h
    obtain ⟨o, checked, h⟩ := bind_eq_ok.mp h
    cases h
    exact .input (checkOptions_ok checked)
  | .collection field options, _, path, n, h => by
    simp only [compile] at h
    obtain ⟨-, -, h⟩ := bind_eq_ok.mp h
    obtain ⟨o, checked, h⟩ := bind_eq_ok.mp h
    cases given : o.collection.isSome with
    | false => simp [Option.isSome_eq_false_iff.mp given] at h
    | true =>
      have some : o.collection.isNone = false := by simpa using given
      simp only [some, Bool.false_eq_true, if_false] at h
      cases h
      exact .collection (checkOptions_ok checked) given
  | .group label none options, _, path, n, h => by
    simp only [compile] at h
    cases h
  | .group label (some body) options, _, path, n, h => by
    simp only [compile] at h
    obtain ⟨level, compiled, h⟩ := bind_eq_ok.mp h
    obtain ⟨o, checked, h⟩ := bind_eq_ok.mp h
    cases h
    exact .group (checkOptions_ok checked) (compileAll_levelOf body compiled).all
  | .hasMany field none options, _, path, n, h => by
    simp only [compile] at h
    obtain ⟨-, -, h⟩ := bind_eq_ok.mp h
    cases h
  | .hasMany field (some builder) options, _, path, n, h => by
    simp only [compile] at h
    obtain ⟨-, -, h⟩ := bind_eq_ok.mp h
    obtain ⟨o, checked, h⟩ := bind_eq_ok.mp h
    cases h
    exact .hasMany (checkOptions_ok checked)
  | .actions none, _, path, n, h => by
    simp only [compile] at h
    cases h
  | .actions (some body), _, path, n, h => by
    simp only [compile] at h
    obtain ⟨level, compiled, h⟩ := bind_eq_ok.mp h
    cases h
    exact .actions (compileAll_levelOf body compiled).all
  | .content written isMarkup, _, path, n, h => by
    simp only [compile] at h
    cases h
    exact .content written isMarkup
  | .script s, other, path, n, h => by cases other
  | .unknown v, _, path, n, h => by
    simp only [compile] at h
    split at h <;> cases h

/-- **One level.** Its declarations become its nodes, and its last script is set apart. -/
theorem compileAll_levelOf : ∀ (ds : List Declaration) {top : Bool} {path : List Step}
    {level : Level}, compileAll top path ds = .ok level → LevelOf top ds level
  | [], top, path, level, h => by
    simp only [compileAll] at h
    cases h
    exact ⟨.nil, rfl, fun _ d hd => nomatch hd⟩
  | d :: rest, top, path, level, h => by
    cases isScript : d.isScript with
    | true =>
      obtain ⟨s, rfl⟩ := eq_script isScript
      simp only [compileAll] at h
      cases top with
      | false => cases h
      | true =>
        obtain ⟨others, compiled, h⟩ := bind_eq_ok.mp h
        cases h
        have levelOf := compileAll_levelOf rest compiled
        refine ⟨levelOf.each, ?_, fun below => nomatch below⟩
        rw [lastScript?_script, ← levelOf.script]
    | false =>
      have notScript : ∀ s, d ≠ .script s := by
        rintro s rfl
        cases isScript
      rw [compileAll] at h
      · obtain ⟨node, compiled, h⟩ := bind_eq_ok.mp h
        obtain ⟨others, compiledRest, h⟩ := bind_eq_ok.mp h
        cases h
        have levelOf := compileAll_levelOf rest compiledRest
        refine ⟨?_, ?_, ?_⟩
        · rw [List.filter_cons_of_pos (by simp [isScript])]
          exact .cons (compile_compiled d isScript compiled) levelOf.each
        · rw [lastScript?_other isScript]
          exact levelOf.script
        · intro below e he
          rcases List.mem_cons.mp he with rfl | he
          · exact isScript
          · exact levelOf.below below e he
      · exact fun s eq => notScript s eq

end

/-! ## Depth first -/

mutual

theorem flat_compiled : ∀ (n : Node) {d : Declaration}, Compiled d n →
    List.Forall₂ Compiled d.flat n.walk
  | .fieldset label ns o, _, .group checked each => by
    simp only [flat, Node.walk]
    exact .cons (.group checked each) (flatAll_compiled ns each)
  | .actions ns, _, .actions each => by
    simp only [flat, Node.walk]
    exact .cons (.actions each) (flatAll_compiled ns each)
  | .input field o, d, h => by
    cases h with
    | input checked => exact .cons (.input checked) .nil
    | collection checked given => exact .cons (.collection checked given) .nil
  | .hasMany field rows o, d, h => by
    cases h with
    | hasMany checked => exact .cons (.hasMany checked) .nil
  | .content _ _, _, .content written isMarkup => .cons (.content written isMarkup) .nil

theorem flatAll_compiled : ∀ (ns : List Node) {ds : List Declaration},
    List.Forall₂ Compiled ds ns → List.Forall₂ Compiled (flatAll ds) (walkAll ns)
  | [], _, .nil => by
    simp only [flatAll, walkAll]
    exact .nil
  | n :: rest, _, .cons head tail => by
    simp only [flatAll, walkAll]
    exact List.rel_append (flat_compiled n head) (flatAll_compiled rest tail)

end

/-- A script has nothing grouped in it, and is no part of the walk itself. -/
theorem flatAll_filter (ds : List Declaration) :
    flatAll (ds.filter (!·.isScript)) = flatAll ds := by
  induction ds with
  | nil => rfl
  | cons d rest ih =>
    cases isScript : d.isScript with
    | true =>
      obtain ⟨s, rfl⟩ := eq_script isScript
      rw [List.filter_cons_of_neg (by simp [isScript]), ih]
      simp [flatAll, flat]
    | false => simp [isScript, flatAll, ih]

theorem filterMap_fieldName? {ds : List Declaration} {ns : List Node}
    (h : List.Forall₂ Compiled ds ns) :
    ns.filterMap Node.fieldName? = ds.filterMap Declaration.fieldName? := by
  induction h with
  | nil => rfl
  | cons head _ ih => simp only [List.filterMap_cons, head.fieldName?, ih]

theorem forall_isScript {ds : List Declaration} {ns : List Node}
    (h : List.Forall₂ Compiled ds ns) : ∀ n ∈ ns, n.isScript = false := by
  induction h with
  | nil => intro n hn; cases hn
  | cons head _ ih =>
    intro n hn
    rcases List.mem_cons.mp hn with rfl | hn
    · exact head.isScript_right
    · exact ih n hn

theorem walkAll_append (ns ms : List Node) : walkAll (ns ++ ms) = walkAll ns ++ walkAll ms := by
  induction ns with
  | nil => simp [walkAll]
  | cons n rest ih => simp [walkAll, ih]

/-! ## No other script -/

mutual

/-- No node below a compiled one is a script, the rows that its builder gives included. -/
theorem compiled_noScript : ∀ (d : Declaration) {n : Node}, Compiled d n →
    n.Everywhere fun n => n.isScript = false
  | .input _ _, _, .input _ => rfl
  | .collection _ _, _, .collection _ _ => rfl
  | .group _ (some body) _, _, .group _ each => by
    simp only [Node.Everywhere]
    exact ⟨rfl, allCompiled_noScript body each⟩
  | .hasMany _ (some builder) _, _, .hasMany _ => by
    simp only [Node.Everywhere]
    exact ⟨rfl, fun record => row_noScript (builder record)⟩
  | .actions (some body), _, .actions each => by
    simp only [Node.Everywhere]
    exact ⟨rfl, allCompiled_noScript body each⟩
  | .content _ _, _, .content _ _ => rfl

theorem allCompiled_noScript : ∀ (ds : List Declaration) {ns : List Node},
    List.Forall₂ Compiled ds ns → Node.AllEverywhere (fun n => n.isScript = false) ns
  | [], _, .nil => trivial
  | d :: rest, _, .cons head tail => by
    simp only [Node.AllEverywhere]
    exact ⟨compiled_noScript d head, allCompiled_noScript rest tail⟩

theorem row_noScript : ∀ (rows : Description),
    (compileRow rows).Everywhere fun n => n.isScript = false
  | .declarations ds => by
    simp only [compileRow]
    cases compiled : compileAll false [] ds with
    | error fault => trivial
    | ok level => exact allCompiled_noScript ds (compileAll_levelOf ds compiled).all
  | .other kind => by simp only [compileRow, RowForm.Everywhere]
  | .failed fault => by simp only [compileRow, RowForm.Everywhere]

end

/-! ## Whole forms -/

/-- The script of a form as its last node. -/
def scriptNodes (ds : List Declaration) : List Node := ((lastScript? ds).map Node.script).toList

theorem scriptNodes_isScript (ds : List Declaration) :
    (scriptNodes ds).filter (·.isScript) = scriptNodes ds := by
  unfold scriptNodes
  cases lastScript? ds <;> rfl

theorem walkAll_scriptNodes (ds : List Declaration) :
    walkAll (scriptNodes ds) = scriptNodes ds := by
  unfold scriptNodes
  cases lastScript? ds <;> rfl

theorem scriptNodes_fieldName? (ds : List Declaration) :
    (scriptNodes ds).filterMap Node.fieldName? = [] := by
  unfold scriptNodes
  cases lastScript? ds <;> rfl

/-- There is a last script if there is any. -/
theorem exists_script_iff (ds : List Declaration) :
    (∃ s, Node.script s ∈ scriptNodes ds) ↔ ∃ s, Declaration.script s ∈ ds := by
  have last : (∃ s, Node.script s ∈ scriptNodes ds) ↔ (lastScript? ds).isSome = true := by
    unfold scriptNodes
    cases lastScript? ds with
    | none => simp
    | some s => simp
  rw [last, lastScript?, List.getLast?_isSome]
  constructor
  · intro some
    obtain ⟨s, mem⟩ := List.exists_mem_of_ne_nil _ some
    obtain ⟨d, hd, isScript⟩ := List.mem_filterMap.mp mem
    cases d with
    | script s' => exact ⟨s', hd⟩
    | _ => cases isScript
  · rintro ⟨s, hd⟩
    exact List.ne_nil_of_mem (List.mem_filterMap.mpr ⟨_, hd, rfl⟩)

theorem firstScript?_append {ns : List Node} (none : ∀ n ∈ ns, n.isScript = false)
    (ms : List Node) : Tree.firstScript? (ns ++ ms) = Tree.firstScript? ms := by
  induction ns with
  | nil => rfl
  | cons n rest ih =>
    have first : n.isScript = false := none n List.mem_cons_self
    have others := ih fun m hm => none m (List.mem_cons_of_mem n hm)
    cases n with
    | script s => cases first
    | _ => exact others

theorem compileTop_ok {description : Option Description} {level : Level}
    (h : compileTop description = .ok level) :
    ∃ ds, description = some (.declarations ds) ∧ compileAll true [] ds = .ok level := by
  match description with
  | none => cases h
  | some (.other kind) => cases h
  | some (.failed fault) => cases h
  | some (.declarations ds) => exact ⟨ds, rfl, h⟩

/-- **The order of a form.** Every level has the nodes of its declarations, one for one and in order.
The last script of the top level is the last node and the only script anywhere; the walk over the
form and the names of its fields follow the declarations depth first. -/
theorem ofDescription_order (description : Option Description) (resource : String) (tree : Tree)
    (h : Tree.ofDescription description resource = .ok tree) :
    ∃ ds nodes walked, description = some (.declarations ds) ∧
      tree.resource = resource ∧
      tree.nodes = nodes ++ scriptNodes ds ∧
      List.Forall₂ Compiled (ds.filter (!·.isScript)) nodes ∧
      Node.AllEverywhere (fun n => n.isScript = false) nodes ∧
      ((∃ s, Node.script s ∈ tree.walk) ↔ ∃ s, Declaration.script s ∈ ds) ∧
      tree.walk.filter (·.isScript) = scriptNodes ds ∧
      tree.script? = lastScript? ds ∧
      tree.walk = walked ++ scriptNodes ds ∧
      List.Forall₂ Compiled (flatAll ds) walked ∧
      tree.fieldNames = (flatAll ds).filterMap Declaration.fieldName? := by
  unfold Tree.ofDescription at h
  split at h
  · rename_i level compiled
    cases h
    obtain ⟨ds, rfl, compiled⟩ := compileTop_ok compiled
    obtain ⟨each, script, -⟩ := compileAll_levelOf ds compiled
    have noScript := forall_isScript each
    have walked := flatAll_compiled level.nodes each
    rw [flatAll_filter] at walked
    have nodes : level.withScript = level.nodes ++ scriptNodes ds := by
      rw [Level.withScript, script, scriptNodes]
      cases lastScript? ds <;> simp
    have walk : Tree.walk ⟨resource, level.withScript⟩ =
        walkAll level.nodes ++ scriptNodes ds := by
      rw [Tree.walk, nodes, walkAll_append, walkAll_scriptNodes]
    have others : (walkAll level.nodes).filter (·.isScript) = [] :=
      List.filter_eq_nil_iff.mpr fun n hn => by simp [forall_isScript walked n hn]
    refine ⟨ds, level.nodes, walkAll level.nodes, rfl, rfl, nodes, each,
      allCompiled_noScript _ each, ?_, ?_, ?_, walk, walked, ?_⟩
    · rw [walk, ← exists_script_iff]
      refine exists_congr fun s => ?_
      rw [List.mem_append, or_iff_right]
      intro mem
      cases forall_isScript walked _ mem
    · rw [walk, List.filter_append, others, scriptNodes_isScript, List.nil_append]
    · rw [Tree.script?, nodes, firstScript?_append noScript, scriptNodes]
      cases lastScript? ds <;> rfl
    · rw [Tree.fieldNames, walk, List.filterMap_append, filterMap_fieldName? walked,
        scriptNodes_fieldName?, List.append_nil]
  · cases h

/-- A form with declarations in a group and two scripts, one of them before the fields. -/
def scriptedForm : List Declaration := [
  .script "a();",
  .group "Details" (some [.input "name" [], .actions (some [.content "<hr>" true])]) [],
  .hasMany "phones" (some (RowBuilder.always (.declarations [.input "number" []]))) [],
  .script "b();"]

theorem ofDescription_order_scriptedForm :
    ∃ tree, Tree.ofDescription (some (.declarations scriptedForm)) "contact" = .ok tree ∧
      tree.script? = some "b();" ∧ tree.fieldNames = ["name", "phones"] := by
  obtain ⟨tree, compiled⟩ : ∃ tree, Tree.ofDescription (some (.declarations scriptedForm))
      "contact" = .ok tree := exists_of_isOk (by decide +kernel)
  obtain ⟨ds, _, _, given, -, -, -, -, -, -, script, -, -, names⟩ :=
    ofDescription_order _ _ tree compiled
  cases given
  exact ⟨tree, compiled, script, names⟩

end Form

end Formwright
