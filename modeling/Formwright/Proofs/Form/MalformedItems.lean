import Formwright.Proofs.Form.ItemFaults
import Formwright.Proofs.Form.ItemPlaces

/-!
# The first malformed item

An item list is refused for the first place in which something is malformed: an item that is no
table of a known kind, or something other than a list in place of items. Items that are well formed
in this sense may still have fields of other types than their kind asks for; these lists are left
out here.

- `isTyped`, `IsTyped`: the types of the fields of an item.
- `faults_walk`: the faults of a list are those of its places.
- `prune`, `load_prune`: what is not looked at.
- `load_first_malformed`: the first malformed place is reported.
-/

namespace Formwright.Form.Items

open Outcome

/-! ## Faults in order -/

/-- The fields of a table have the types that its kind asks for. -/
def isTyped (entries : List (Value × Value)) : Bool :=
  match Value.named? entries "kind" with
  | none => true
  | some v =>
    match Value.entriesOf (fieldOr entries "options" (.table [])) with
    | .error _ => false
    | .ok options =>
      match itemKind? v with
      | none => v.isShowable
      | some kind =>
        kind.taken.all (fun taken => options.all (isOption taken)) &&
          kind.textField.all fun name => (fieldOr entries name (.text "")).string?.isSome

/-- The fields of an item have the types that its kind asks for. -/
def Part.isTyped : Part → Bool
  | .item (.table entries) => Items.isTyped entries
  | _ => true

/-- All tables that are reached have fields of their types. -/
def IsTyped (v : Value) : Prop :=
  ∀ place part, Leads (.list v) place part → part.isTyped = true

theorem isTyped_iff {v : Value} : IsTyped v ↔ ∀ x ∈ walkList v, x.2.isTyped = true := by
  constructor
  · rintro typed ⟨place, part⟩ mem
    have leads : Leads (.list v) place part := mem_walk.mp mem
    exact typed place part leads
  · intro typed place part leads
    exact typed (place, part) (mem_walk.mpr leads)

theorem textFaults_string {v : Value} (string : v.string?.isSome = true) (record field : String) :
    textFaults record field v = [] := by
  obtain ⟨s, eq⟩ := Option.isSome_iff_exists.mp string
  rw [textFaults, eq]

theorem labelFaults_string {v : Value} (string : v.string?.isSome = true) : labelFaults v = [] := by
  rw [labelFaults, string]
  rfl

theorem optionFaults_all {taken : List String} {options : List (Value × Value)}
    (all : options.all (isOption taken) = true) : optionFaults taken options = [] :=
  if_pos all

/-- The collection is no option, but stands among them. -/
theorem optionFaults_collection {options : List (Value × Value)}
    (all : options.all (isOption ["field_name"]) = true) :
    optionFaults ["field_name", "collection"] (options.filter fun e => !e.1.isText "collection") =
      [] := by
  refine optionFaults_all (List.all_eq_true.mpr fun e mem => ?_)
  obtain ⟨mem, other⟩ := List.mem_filter.mp mem
  have option := List.all_eq_true.mp all e mem
  unfold isOption at option ⊢
  unfold Value.isText at other
  cases string : e.1.string? with
  | none =>
    rw [string] at option
    cases option
  | some name =>
    rw [string] at option other
    simp only [Option.elim_some, List.contains_cons, List.contains_nil, Bool.or_false,
      Bool.not_eq_true', Bool.or_eq_false_iff] at option other ⊢
    exact ⟨option, other⟩

theorem kindFaults_typed {path : String} {entries options : List (Value × Value)} {v : Value}
    {kind : ItemKind} (known : itemKind? v = some kind)
    (taken : kind.taken.all (fun taken => options.all (isOption taken)) = true)
    (text : kind.textField.all
      (fun name => (fieldOr entries name (.text "")).string?.isSome) = true)
    (children : List Fault) :
    kindFaults path entries options v children = if kind.holdsItems then children else [] := by
  obtain ⟨mem, string⟩ := string?_of_itemKind known
  have named : ∀ name, v.isText name = (kind.name == name) := by
    intro name
    simp [Value.isText, string]
  unfold kindFaults
  simp only [named]
  clear named string known
  simp only [itemKinds, List.mem_cons, List.not_mem_nil, or_false] at mem
  rcases mem with rfl | rfl | rfl | rfl | rfl | rfl | rfl | rfl
  · simp [optionFaults_all taken, textFaults_string text]
  · simp [optionFaults_all taken, labelFaults_string text]
  · simp [optionFaults_collection taken, textFaults_string text]
  · simp [optionFaults_all taken, textFaults_string text]
  · simp
  · simp [textFaults_string text]
  · simp [textFaults_string text]
  · simp [textFaults_string text]

theorem kindFaults_unknown {path : String} {entries options : List (Value × Value)} {v : Value}
    (unknown : itemKind? v = none) (children : List Fault) :
    kindFaults path entries options v children =
      [if v.isShowable then .item path (.unknownKind v.toText) else .misuse .length] := by
  have other : ∀ kind ∈ itemKinds, v.isText kind.name = false := fun kind mem =>
    Bool.eq_false_iff.mpr (List.find?_eq_none.mp unknown kind mem)
  simp only [itemKinds, List.forall_mem_cons, List.not_mem_nil, false_implies, implies_true,
    and_true] at other
  simp only [kindFaults, other, Bool.false_eq_true, if_false]

/-- A table has the fault that stands in its own place, or the faults of the items in it. -/
theorem entryFaults_typed {path : String} {entries : List (Value × Value)}
    (typed : isTyped entries = true) (children : List Fault) :
    entryFaults path entries children =
      (tableCause? entries).toList.map (.item path) ++
        if holdsItems entries then children else [] := by
  unfold isTyped at typed
  unfold entryFaults tableCause?
  cases named : Value.named? entries "kind" with
  | none => simp [holdsItems, named]
  | some v =>
    rw [named] at typed
    simp only [holdsItems_eq named] at typed ⊢
    cases taken : Value.entriesOf (fieldOr entries "options" (.table [])) with
    | error fault =>
      rw [taken] at typed
      cases typed
    | ok options =>
      rw [taken] at typed
      simp only at typed ⊢
      cases known : itemKind? v with
      | none =>
        rw [known] at typed
        rw [kindFaults_unknown known, if_pos typed]
        rfl
      | some kind =>
        rw [known, Bool.and_eq_true] at typed
        rw [kindFaults_typed known typed.1 typed.2]
        rfl

/-- What is reported of a place. -/
def report? (path : String) (x : Place × Part) : Option Fault :=
  x.2.cause?.map (.item (x.1.text path))

theorem report?_isSome (path : String) (x : Place × Part) :
    (report? path x).isSome = x.2.cause?.isSome :=
  Option.isSome_map

theorem report?_under (path : String) (step : PlaceStep) (places : List (Place × Part)) :
    (places.map (under step)).filterMap (report? path) =
      places.filterMap (report? (step.extend path)) := by
  rw [List.filterMap_map]
  rfl

theorem report?_cons (path : String) (part : Part) (inner : List (Place × Part)) :
    (([], part) :: inner).filterMap (report? path) =
      part.cause?.toList.map (.item path) ++ inner.filterMap (report? path) := by
  rw [List.filterMap_cons]
  cases cause : part.cause? with
  | none => simp [report?, cause]
  | some c => simp [report?, cause, Place.text]

/-- All tables among these places have fields of their types. -/
def AllTyped (places : List (Place × Part)) : Prop := ∀ x ∈ places, x.2.isTyped = true

theorem AllTyped.of_under {places : List (Place × Part)} {step : PlaceStep}
    (h : AllTyped (places.map (under step))) : AllTyped places :=
  fun x mem => h (under step x) (List.mem_map_of_mem mem)

mutual

/-- **The faults of a list** are those of its places. -/
theorem faults_walk : ∀ (v : Value) (path : String), AllTyped (walkList v) →
    faults path v = (walkList v).filterMap (report? path)
  | .list items, path, typed => by
    rw [walkList] at typed ⊢
    rw [faults, report?_cons, faultsFrom_walk items path 0 (List.forall_mem_cons.mp typed).2]
    rfl
  | .none, path, _ | .bool _, path, _ | .int _, path, _ | .float _, path, _ | .decimal _, path, _
  | .text _, path, _ | .markup _, path, _ | .date _, path, _ | .time _, path, _
  | .datetime _ _, path, _ | .zone _, path, _ | .step _, path, _ | .tuple _, path, _
  | .table _, path, _ | .object _, path, _ | .computed _, path, _ => by
    simp only [faults, walkList]
    rfl

theorem faultsFrom_walk : ∀ (vs : List Value) (path : String) (index : Nat),
    AllTyped (walkFrom index vs) →
      faultsFrom path index vs = (walkFrom index vs).filterMap (report? path)
  | [], path, index, _ => by
    rw [faultsFrom, walkFrom]
    rfl
  | v :: rest, path, index, typed => by
    rw [walkFrom] at typed ⊢
    obtain ⟨first, others⟩ := List.forall_mem_append.mp typed
    rw [faultsFrom, List.filterMap_append, report?_under,
      faultsFrom_walk rest path (index + 1) others,
      itemFaults_walk v (itemPath path index) (AllTyped.of_under first)]
    rfl

theorem itemFaults_walk : ∀ (v : Value) (path : String), AllTyped (walkItem v) →
    itemFaults path v = (walkItem v).filterMap (report? path)
  | .table entries, path, typed => by
    rw [walkItem] at typed ⊢
    obtain ⟨own, inner⟩ := List.forall_mem_cons.mp typed
    rw [itemFaults, entryFaults_typed own, report?_cons]
    cases holds : holdsItems entries with
    | false => rfl
    | true =>
      rw [holds] at inner
      exact congrArg _ (childFaults_walk entries path inner)
  | .none, path, _ | .bool _, path, _ | .int _, path, _ | .float _, path, _ | .decimal _, path, _
  | .text _, path, _ | .markup _, path, _ | .date _, path, _ | .time _, path, _
  | .datetime _ _, path, _ | .zone _, path, _ | .step _, path, _ | .list _, path, _
  | .tuple _, path, _ | .object _, path, _ | .computed _, path, _ => by
    simp only [itemFaults, walkItem]
    rfl

theorem childFaults_walk : ∀ (entries : List (Value × Value)) (path : String),
    AllTyped (walkItems entries) →
      childFaults path entries = (walkItems entries).filterMap (report? path)
  | [], path, _ => by
    rw [childFaults, walkItems]
    rfl
  | (key, v) :: rest, path, typed => by
    rw [walkItems] at typed ⊢
    rw [childFaults]
    split
    · rename_i key
      rw [if_pos key] at typed
      split
      · rfl
      · rename_i absent
        rw [if_neg absent] at typed
        rw [report?_under, faults_walk v (itemsPath path) typed.of_under]
        rfl
    · rename_i key
      rw [if_neg key] at typed
      exact childFaults_walk rest path typed

end

/-! ## What is not looked at -/

mutual

/-- An item list without what stands under `items` where no items are looked for, at any depth. -/
def prune : Value → Value
  | .list items => .list (pruneAll items)
  | v => v

/-- Items without what is not looked at. -/
def pruneAll : List Value → List Value
  | [] => []
  | v :: rest => pruneItem v :: pruneAll rest

/-- An item without what is not looked at. -/
def pruneItem : Value → Value
  | .table entries => .table (pruneEntries (holdsItems entries) entries)
  | v => v

/-- The entries of an item, in which items may stand or not. -/
def pruneEntries (holds : Bool) : List (Value × Value) → List (Value × Value)
  | [] => []
  | (key, v) :: rest =>
    if key.isText "items" then
      if holds then (key, prune v) :: pruneEntries holds rest else pruneEntries holds rest
    else (key, v) :: pruneEntries holds rest

end

theorem isNone_prune (v : Value) : (prune v).isNone = v.isNone := by
  cases v with
  | list items => rfl
  | _ => rw [prune]; nofun

theorem named?_pruneEntries {name : String} (other : name ≠ "items") (holds : Bool)
    (entries : List (Value × Value)) :
    Value.named? (pruneEntries holds entries) name = Value.named? entries name := by
  induction entries with
  | nil => rw [pruneEntries]
  | cons e rest ih =>
    obtain ⟨key, v⟩ := e
    rw [pruneEntries]
    by_cases isItems : key.isText "items" = true
    · have string : key.string? = some "items" := beq_iff_eq.mp isItems
      have notName : key.isText name = false := by
        simpa [Value.isText, string] using Ne.symm other
      cases holds with
      | true => simp [isItems, Value.named?_cons, notName, ih]
      | false => simp [isItems, Value.named?_cons, notName, ih]
    · simp [isItems, Value.named?_cons, ih]

/-- The declaration of an item depends on its fields, and on the items in it if there may be any. -/
theorem declaration_congr {path : String} {entries entries' : List (Value × Value)}
    {children children' : Except Fault (Option (List Declaration))}
    (fields : ∀ name, name ≠ "items" → Value.named? entries' name = Value.named? entries name)
    (inner : holdsItems entries = true → children' = children) :
    declaration path entries' children' = declaration path entries children := by
  unfold declaration fieldOr
  simp only [fields "kind" (by decide), fields "options" (by decide), fields "field" (by decide),
    fields "label" (by decide), fields "content" (by decide), fields "script" (by decide)]
  cases named : Value.named? entries "kind" with
  | none => rfl
  | some v =>
    -- a kind whose items are loaded is one that may have some
    have same : ∀ name,
        ((itemKinds.find? fun kind => name == kind.name).any (·.holdsItems)) = true →
        children' = children ∨ v.isText name = false := by
      intro name holds
      cases isName : v.isText name with
      | false => exact .inr rfl
      | true =>
        left
        apply inner
        rw [holdsItems_eq named, itemKind?_eq isName]
        exact holds
    rcases same "inputs" rfl with rfl | notInputs
    · rfl
    rcases same "has_many" rfl with rfl | notHasMany
    · rfl
    rcases same "actions" rfl with rfl | notActions
    · rfl
    simp only [notInputs, notHasMany, notActions, Bool.false_eq_true, if_false]

mutual

/-- **What stands under `items` of other kinds** is never looked at. -/
theorem load_prune : ∀ (v : Value) (path : String), load path (prune v) = load path v
  | .list items, path => by
    rw [prune, load, load, loadFrom_prune items path 0]
  | .none, path | .bool _, path | .int _, path | .float _, path | .decimal _, path
  | .text _, path | .markup _, path | .date _, path | .time _, path | .datetime _ _, path
  | .zone _, path | .step _, path | .tuple _, path | .table _, path | .object _, path
  | .computed _, path => by
    simp only [prune]

theorem loadFrom_prune : ∀ (vs : List Value) (path : String) (index : Nat),
    loadFrom path index (pruneAll vs) = loadFrom path index vs
  | [], path, index => by rw [pruneAll]
  | v :: rest, path, index => by
    rw [pruneAll, loadFrom, loadFrom, loadItem_prune v, loadFrom_prune rest]

theorem loadItem_prune : ∀ (v : Value) (path : String),
    loadItem path (pruneItem v) = loadItem path v
  | .table entries, path => by
    rw [pruneItem, loadItem, loadItem]
    refine declaration_congr (fun name other => named?_pruneEntries other _ entries) fun holds => ?_
    rw [holds]
    exact loadChildren_prune entries path
  | .none, path | .bool _, path | .int _, path | .float _, path | .decimal _, path
  | .text _, path | .markup _, path | .date _, path | .time _, path | .datetime _ _, path
  | .zone _, path | .step _, path | .list _, path | .tuple _, path | .object _, path
  | .computed _, path => by
    simp only [pruneItem]

theorem loadChildren_prune : ∀ (entries : List (Value × Value)) (path : String),
    loadChildren path (pruneEntries true entries) = loadChildren path entries
  | [], path => by rw [pruneEntries]
  | (key, v) :: rest, path => by
    rw [pruneEntries]
    by_cases isItems : key.isText "items" = true
    · rw [if_pos isItems, if_pos rfl, loadChildren, loadChildren, if_pos isItems, if_pos isItems,
        isNone_prune, load_prune v]
    · rw [if_neg isItems, loadChildren, loadChildren, if_neg isItems, if_neg isItems,
        loadChildren_prune rest]

end

/-! ## The first malformed place -/

theorem report?_eq_some {path : String} {x : Place × Part} {e : Fault} :
    report? path x = some e ↔ ∃ cause, x.2.cause? = some cause ∧ .item (x.1.text path) cause = e :=
  Option.map_eq_some_iff

theorem reports_eq_nil_iff {path : String} {v : Value} :
    (walkList v).filterMap (report? path) = [] ↔ ∀ place cause, ¬ Malformed v place cause := by
  rw [List.filterMap_eq_nil_iff]
  constructor
  · intro nothing place cause malformed
    obtain ⟨x, mem, -, wrong⟩ := malformed_iff.mp malformed
    have reported := report?_isSome path x
    rw [nothing x mem, wrong] at reported
    cases reported
  · intro nothing x mem
    rw [report?, Option.map_eq_none_iff, Option.eq_none_iff_forall_ne_some]
    intro cause wrong
    exact nothing x.1 cause (malformed_iff.mpr ⟨x, mem, rfl, wrong⟩)

/-- The first report is that of the first malformed place. -/
theorem reports_head_iff {path : String} {v : Value} {e : Fault} :
    (∃ rest, (walkList v).filterMap (report? path) = e :: rest) ↔
      ∃ place cause, IsFirst v place cause ∧ e = .item (place.text path) cause := by
  rw [(walkList_sorted v).first_iff]
  constructor
  · rintro ⟨x, mem, found, earliest⟩
    obtain ⟨cause, wrong, rfl⟩ := report?_eq_some.mp found
    refine ⟨x.1, cause, ⟨malformed_iff.mpr ⟨x, mem, rfl, wrong⟩, ?_⟩, rfl⟩
    intro other cause' malformed
    obtain ⟨y, mem', rfl, wrong'⟩ := malformed_iff.mp malformed
    apply earliest y mem'
    rw [report?_isSome, wrong']
    rfl
  · rintro ⟨place, cause, ⟨malformed, earliest⟩, rfl⟩
    obtain ⟨x, mem, rfl, wrong⟩ := malformed_iff.mp malformed
    refine ⟨x, mem, report?_eq_some.mpr ⟨cause, wrong, rfl⟩, ?_⟩
    intro y mem' other
    rw [report?_isSome] at other
    obtain ⟨cause', wrong'⟩ := Option.isSome_iff_exists.mp other
    exact earliest y.1 cause' (malformed_iff.mpr ⟨y, mem', rfl, wrong'⟩)

/-- **Loading an item list.** If all tables that are reached have fields of their types, the list is
loaded if and only if nothing is malformed, and else what is reported is the first malformed place
in the order of a search in depth. What stands under `items` of other kinds makes no difference. -/
theorem load_first_malformed (path : String) (v : Value) :
    (IsTyped v →
      ((∃ ds, load path v = .ok ds) ↔ ∀ place cause, ¬ Malformed v place cause) ∧
      ∀ e, load path v = .error e ↔ ∃ place cause, IsFirst v place cause ∧
        e = .item (place.text path) cause ∧
        e.message = place.text path ++ ": " ++ cause.message) ∧
    load path (prune v) = load path v := by
  refine ⟨fun typed => ?_, load_prune v path⟩
  have first : FirstOf ((walkList v).filterMap (report? path)) (load path v) := by
    rw [← faults_walk v path (isTyped_iff.mp typed)]
    exact load_first v path
  constructor
  · rw [first.ok_iff, reports_eq_nil_iff]
  · intro e
    rw [first.error_iff, reports_head_iff]
    constructor
    · rintro ⟨place, cause, isFirst, rfl⟩
      exact ⟨place, cause, isFirst, rfl, rfl⟩
    · rintro ⟨place, cause, isFirst, rfl, -⟩
      exact ⟨place, cause, isFirst, rfl⟩

/-- Items of which three are malformed: one among the actions, a text, and what stands under an
input, where it is not looked at. -/
def malformedItems : Value := .list [
  .table [(.text "kind", .text "actions"), (.text "items", .list [
    .table [(.text "kind", .text "input"), (.text "field", .text "name"), (.text "items", .int 1)],
    .table [(.text "kind", .text "widget")]])],
  .text "Save"]

theorem load_first_malformed_malformedItems :
    IsTyped malformedItems ∧
    (∃ place, IsFirst malformedItems place (.unknownKind "widget") ∧
      place.text "form.items" = "form.items[0].items[1]") ∧
    load "form.items" (prune malformedItems) =
      .error (.item "form.items[0].items[1]" (.unknownKind "widget")) := by
  have typed : IsTyped malformedItems := isTyped_iff.mpr (by decide +kernel)
  have refused : load "form.items" malformedItems =
      .error (.item "form.items[0].items[1]" (.unknownKind "widget")) := by rfl
  obtain ⟨loading, pruned⟩ := load_first_malformed "form.items" malformedItems
  obtain ⟨place, cause, first, same, -⟩ := ((loading typed).2 _).mp refused
  obtain ⟨way, rfl⟩ := Fault.item.inj same
  exact ⟨typed, ⟨place, first, way.symm⟩, pruned.trans refused⟩

end Formwright.Form.Items
