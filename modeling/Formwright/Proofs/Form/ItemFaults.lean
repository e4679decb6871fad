import Formwright.Form.Items
import Formwright.Proofs.Outcome

/-!
# The faults of an item list

All that is wrong with an item list, in the order in which it is found: an item that is no table
with a kind, a kind that is not known, options that a declaration cannot take, and texts that are
none. The faults of the items in an item come before its own. Loading stops at the first of them.

- `optionFaults`, `textFaults`, `labelFaults`, `kindFaults`: what is wrong with one item.
- `faults`, `faultsFrom`, `itemFaults`: a whole list.
- `declaration_first`, `load_first`: loading stops at the first fault.
-/

namespace Formwright

open Outcome

/-- A value was used in a way that its kind does not allow, which is not reported. -/
def Fault.IsMisuse (e : Fault) : Prop := ∃ m, e = .misuse m

namespace Value

theorem members_misuse (v : Value) : FailsWith Fault.IsMisuse (members v) := by
  unfold members
  split
  · exact .ok _
  · exact .error ⟨_, rfl⟩

theorem pairEntry_misuse (v : Value) : FailsWith Fault.IsMisuse (pairEntry v) := by
  have parts : FailsWith Fault.IsMisuse (pairParts v) := by
    refine (members_misuse v).bind fun items _ => ?_
    split
    · exact .ok _
    · exact .error ⟨_, rfl⟩
  refine parts.bind fun pair _ => ?_
  obtain ⟨key, value⟩ := pair
  dsimp only
  split
  · exact .ok _
  · exact .error ⟨_, rfl⟩

theorem entriesOf_misuse (v : Value) : FailsWith Fault.IsMisuse (entriesOf v) := by
  have pairs : FailsWith Fault.IsMisuse
      (do return tableOf (← (← members v).mapM pairEntry)) := by
    refine (members_misuse v).bind fun items _ => ?_
    exact (FailsWith.mapM fun item _ => pairEntry_misuse item).thenReturn
  unfold entriesOf
  split
  · exact .ok _
  · exact pairs

end Value

namespace Form.Items

/-! ## What is wrong with an item -/

/-- An option that has a name, which the declaration does not take for itself. -/
def isOption (taken : List String) (e : Value × Value) : Bool :=
  e.1.string?.elim false (!taken.contains ·)

/-- Options that a declaration cannot take. -/
def optionFaults (taken : List String) (options : List (Value × Value)) : List Fault :=
  if options.all (isOption taken) then [] else [.misuse .kind]

/-- A text that is none. -/
def textFaults (record field : String) (v : Value) : List Fault :=
  match v.string? with
  | some _ => []
  | none => [.refused ⟨record, [⟨[field], .notText⟩]⟩]

/-- A label that is no text stands for a body, which has members. -/
def labelFaults (v : Value) : List Fault :=
  if v.string?.isSome || v.isNone || v.items?.isSome then [] else [.misuse .kind]

/-- What is wrong with an item of a kind, the faults of the items in it first. -/
def kindFaults (path : String) (entries options : List (Value × Value)) (kind : Value)
    (children : List Fault) : List Fault :=
  let said name := fieldOr entries name (.text "")
  if kind.isText "input" then
    optionFaults ["field_name"] options ++ textFaults "InputDecl" "field_name" (said "field")
  else if kind.isText "inputs" then
    children ++ (optionFaults ["label", "body"] options ++ labelFaults (said "label"))
  else if kind.isText "collection_inputs" then
    optionFaults ["field_name", "collection"] (options.filter fun e => !e.1.isText "collection") ++
      textFaults "CollectionInputsDecl" "field_name" (said "field")
  else if kind.isText "has_many" then
    children ++ (optionFaults ["field_name", "builder"] options ++
      textFaults "HasManyDecl" "field_name" (said "field"))
  else if kind.isText "actions" then children
  else if kind.isText "content" then textFaults "ContentDecl" "content" (said "content")
  else if kind.isText "text" then textFaults "ContentDecl" "content" (said "content")
  else if kind.isText "javascript" then textFaults "ScriptDecl" "script" (said "script")
  else [if kind.isShowable then .item path (.unknownKind kind.toText) else .misuse .length]

/-- What is wrong with an item table. -/
def entryFaults (path : String) (entries : List (Value × Value)) (children : List Fault) :
    List Fault :=
  match Value.named? entries "kind" with
  | none => [.item path .noKind]
  | some kind =>
    match Value.entriesOf (fieldOr entries "options" (.table [])) with
    | .error fault => [fault]
    | .ok options => kindFaults path entries options kind children

mutual

/-- The faults of an item list. -/
def faults (path : String) : Value → List Fault
  | .list items => faultsFrom path 0 items
  | _ => [.item path .notList]

/-- The faults of the items of a list, from an index on. -/
def faultsFrom (path : String) (index : Nat) : List Value → List Fault
  | [] => []
  | v :: rest => itemFaults (itemPath path index) v ++ faultsFrom path (index + 1) rest

/-- The faults of one item. -/
def itemFaults (path : String) : Value → List Fault
  | .table entries => entryFaults path entries (childFaults path entries)
  | _ => [.item path .noKind]

/-- The faults of the items in an item, if it has any. -/
def childFaults (path : String) : List (Value × Value) → List Fault
  | [] => []
  | (key, v) :: rest =>
    if key.isText "items" then if v.isNone then [] else faults (itemsPath path) v
    else childFaults path rest

end

/-! ## Loading stops at the first fault -/

/-- Names are read unless a key is no text; then an option is taken if it is no option. -/
theorem byName_cases (taken : List String) (options : List (Value × Value)) :
    (Value.byName options = .error (.misuse .kind) ∧ options.all (isOption taken) = false) ∨
    ∃ named, Value.byName options = .ok named ∧
      (named.any fun e => taken.contains e.1) = !options.all (isOption taken) := by
  induction options with
  | nil => exact .inr ⟨[], rfl, rfl⟩
  | cons e rest ih =>
    have step : Value.byName (e :: rest) = (match e.1.string? with
        | some name => .ok (name, e.2)
        | none => .error (.misuse .kind)) >>= fun first =>
          Value.byName rest >>= fun others => .ok (first :: others) := by
      unfold Value.byName
      rw [List.mapM_cons]
      rfl
    rw [step, List.all_cons, isOption]
    cases e.1.string? with
    | none => exact .inl ⟨rfl, rfl⟩
    | some name =>
      rcases ih with ⟨refused, all⟩ | ⟨named, read, any⟩
      · left
        rw [refused, all, Bool.and_false]
        exact ⟨rfl, rfl⟩
      · right
        refine ⟨(name, e.2) :: named, by rw [read]; rfl, ?_⟩
        rw [List.any_cons, any, Option.elim_some, Bool.not_and, Bool.not_not]

theorem namedOptions_first (taken : List String) (options : List (Value × Value)) :
    FirstOf (optionFaults taken options) (Declaration.namedOptions taken options) := by
  unfold optionFaults Declaration.namedOptions
  rcases byName_cases taken options with ⟨refused, all⟩ | ⟨named, read, any⟩
  · rw [refused, all]
    exact .first _ []
  · rw [read, ok_bind, any]
    cases options.all (isOption taken) with
    | true => exact .none _
    | false => exact .first _ []

theorem text_first (record field : String) (v : Value) :
    FirstOf (textFaults record field v) (((Rule.text v).under field).orFault record) := by
  cases v with
  | text s => exact .none _
  | markup s => exact .none _
  | _ => exact .first _ []

theorem ofInput_first (field : Value) (options : List (Value × Value)) :
    FirstOf (optionFaults ["field_name"] options ++ textFaults "InputDecl" "field_name" field)
      (Declaration.ofInput field options) := by
  refine (namedOptions_first _ options).bind fun named _ => ?_
  exact (text_first _ _ field).thenReturn

theorem ofCollection_first (field collection : Value) (options : List (Value × Value)) :
    FirstOf (optionFaults ["field_name", "collection"] options ++
      textFaults "CollectionInputsDecl" "field_name" field)
      (Declaration.ofCollection field collection options) := by
  refine (namedOptions_first _ options).bind fun named _ => ?_
  exact (text_first _ _ field).thenReturn

theorem ofHasMany_first (field : Value) (builder : Option RowBuilder)
    (options : List (Value × Value)) :
    FirstOf (optionFaults ["field_name", "builder"] options ++
      textFaults "HasManyDecl" "field_name" field)
      (Declaration.ofHasMany field builder options) := by
  refine (namedOptions_first _ options).bind fun named _ => ?_
  exact (text_first _ _ field).thenReturn

theorem ofLabelled_first (label : Value) (body : Option (List Declaration))
    (options : List (Value × Value)) :
    FirstOf (optionFaults ["label", "body"] options ++ labelFaults label)
      (Declaration.ofLabelled label (.ok body) options) := by
  refine (namedOptions_first _ options).bind fun named _ => ?_
  -- a label that is no text is taken for the body, whose members are no declarations
  cases label with
  | list items => exact .none _
  | _ => first | exact .none _ | exact .first _ []

/-- **One item** is refused for the first of its faults, those of the items in it included. -/
theorem declaration_first {path : String} {entries : List (Value × Value)}
    {children : Except Fault (Option (List Declaration))} {inner : List Fault}
    (first : FirstOf inner children) :
    FirstOf (entryFaults path entries inner) (declaration path entries children) := by
  unfold entryFaults declaration
  cases Value.named? entries "kind" with
  | none => exact .first _ []
  | some kind =>
    simp only
    cases Value.entriesOf (fieldOr entries "options" (.table [])) with
    | error fault => exact .first _ []
    | ok options =>
      simp only [ok_bind, kindFaults]
      -- the kinds in the order in which they are tried
      split
      · exact ofInput_first _ options
      · split
        · exact first.bind fun body _ => ofLabelled_first _ body options
        · split
          · exact ofCollection_first _ _ _
          · split
            · exact first.bind fun body _ => ofHasMany_first _ _ options
            · split
              · exact first.thenReturn
              · split
                · exact (text_first _ _ _).thenReturn
                · split
                  · exact (text_first _ _ _).thenReturn
                  · split
                    · exact (text_first _ _ _).thenReturn
                    · split <;> exact .first _ []

mutual

/-- **An item list** is refused for the first of its faults. -/
theorem load_first : ∀ (v : Value) (path : String), FirstOf (faults path v) (load path v)
  | .list items, path => by
    rw [faults, load]
    exact loadFrom_first items path 0
  | .none, path | .bool _, path | .int _, path | .float _, path | .decimal _, path
  | .text _, path | .markup _, path | .date _, path | .time _, path | .datetime _ _, path
  | .zone _, path | .step _, path | .tuple _, path | .table _, path | .object _, path
  | .computed _, path => by
    simp only [faults, load]
    exact .first _ []

theorem loadFrom_first : ∀ (vs : List Value) (path : String) (index : Nat),
    FirstOf (faultsFrom path index vs) (loadFrom path index vs)
  | [], path, index => by
    rw [faultsFrom, loadFrom]
    exact .none _
  | v :: rest, path, index => by
    rw [faultsFrom, loadFrom]
    refine (loadItem_first v (itemPath path index)).bind fun d _ => ?_
    exact (loadFrom_first rest path (index + 1)).thenReturn

theorem loadItem_first : ∀ (v : Value) (path : String),
    FirstOf (itemFaults path v) (loadItem path v)
  | .table entries, path => by
    rw [itemFaults, loadItem]
    exact declaration_first (loadChildren_first entries path)
  | .none, path | .bool _, path | .int _, path | .float _, path | .decimal _, path
  | .text _, path | .markup _, path | .date _, path | .time _, path | .datetime _ _, path
  | .zone _, path | .step _, path | .list _, path | .tuple _, path | .object _, path
  | .computed _, path => by
    simp only [itemFaults, loadItem]
    exact .first _ []

theorem loadChildren_first : ∀ (entries : List (Value × Value)) (path : String),
    FirstOf (childFaults path entries) (loadChildren path entries)
  | [], path => by
    rw [childFaults, loadChildren]
    exact .none _
  | (key, v) :: rest, path => by
    rw [childFaults, loadChildren]
    split
    · split
      · exact .none _
      · exact (load_first v (itemsPath path)).map
    · exact loadChildren_first rest path

end

/-! ## Kinds of faults -/

/-- A fault of an item list: it is reported of an item or of the text of one, or a misuse. -/
def isItemFault : Fault → Bool
  | .item _ _ | .refused _ | .misuse _ => true
  | _ => false

theorem optionFaults_kind (taken : List String) (options : List (Value × Value)) :
    (optionFaults taken options).all isItemFault = true := by
  unfold optionFaults
  split <;> rfl

theorem textFaults_kind (record field : String) (v : Value) :
    (textFaults record field v).all isItemFault = true := by
  unfold textFaults
  split <;> rfl

theorem labelFaults_kind (v : Value) : (labelFaults v).all isItemFault = true := by
  unfold labelFaults
  split <;> rfl

theorem entryFaults_kind {path : String} {entries : List (Value × Value)} {inner : List Fault}
    (children : inner.all isItemFault = true) :
    (entryFaults path entries inner).all isItemFault = true := by
  unfold entryFaults
  split
  · rfl
  · split
    · rename_i fault refused
      obtain ⟨m, rfl⟩ := Value.entriesOf_misuse _ fault refused
      rfl
    · unfold kindFaults
      simp only
      repeat' split
      all_goals first
        | rfl
        | simp only [List.all_append, optionFaults_kind, textFaults_kind, labelFaults_kind,
            children, Bool.and_self]

mutual

theorem faults_kind : ∀ (v : Value) (path : String), (faults path v).all isItemFault = true
  | .list items, path => by
    rw [faults]
    exact faultsFrom_kind items path 0
  | .none, path | .bool _, path | .int _, path | .float _, path | .decimal _, path
  | .text _, path | .markup _, path | .date _, path | .time _, path | .datetime _ _, path
  | .zone _, path | .step _, path | .tuple _, path | .table _, path | .object _, path
  | .computed _, path => by
    simp only [faults]
    rfl

theorem faultsFrom_kind : ∀ (vs : List Value) (path : String) (index : Nat),
    (faultsFrom path index vs).all isItemFault = true
  | [], path, index => by
    rw [faultsFrom]
    rfl
  | v :: rest, path, index => by
    rw [faultsFrom, List.all_append, itemFaults_kind v, faultsFrom_kind rest]
    rfl

theorem itemFaults_kind : ∀ (v : Value) (path : String),
    (itemFaults path v).all isItemFault = true
  | .table entries, path => by
    rw [itemFaults]
    exact entryFaults_kind (childFaults_kind entries path)
  | .none, path | .bool _, path | .int _, path | .float _, path | .decimal _, path
  | .text _, path | .markup _, path | .date _, path | .time _, path | .datetime _ _, path
  | .zone _, path | .step _, path | .list _, path | .tuple _, path | .object _, path
  | .computed _, path => by
    simp only [itemFaults]
    rfl

theorem childFaults_kind : ∀ (entries : List (Value × Value)) (path : String),
    (childFaults path entries).all isItemFault = true
  | [], path => by
    rw [childFaults]
    rfl
  | (key, v) :: rest, path => by
    rw [childFaults]
    split
    · split
      · rfl
      · exact faults_kind v (itemsPath path)
    · exact childFaults_kind rest path

end

end Form.Items

end Formwright
