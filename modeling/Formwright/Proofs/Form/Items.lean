import Formwright.Form.Items
import Formwright.Proofs.Form.Faults
import Formwright.Proofs.Value.Named
import Formwright.Render.Form

/-!
# Forms as item tables

A form is written by calls, or as a list of item tables. The same form written either way has the
same declarations, whatever the order of the fields of a table and whether or not it leaves out
fields that are empty.

- `Written`: a form as it is written; `declareAll`: its declarations by calls.
- `Encodes`: a table is an item for what is written; `item`: one such table.
- `loadItem_encoded`, `loadFrom_encoded`: items are loaded as what they encode.
- `Omits`, `omitted_refused`: items that are left out are missed when the form is compiled.
- `load_written`: whole item lists.
-/

namespace Formwright.Form

open Outcome Declaration

/-! ## What is written -/

/-- A declaration as it is written, by a call or in an item table. -/
inductive Written where
  | input (field : String) (options : List (String × Value))
  /-- A group, without a body when none was written. -/
  | group (label : String) (body : Option (List Written)) (options : List (String × Value))
  | collection (field : String) (records : Value) (options : List (String × Value))
  /-- Rows that are the same for every record. -/
  | hasMany (field : String) (rows : Option (List Written)) (options : List (String × Value))
  | actions (body : Option (List Written))
  | content (markup : String)
  | text (s : String)
  | script (s : String)

namespace Written

mutual

/-- The declaration that a call gives. -/
def declare : Written → Except Fault Declaration
  | .input field options => ofInput (.text field) (Value.entriesOfNamed options)
  | .group label body options =>
    ofLabelled (.text label) (declareBody body) (Value.entriesOfNamed options)
  | .collection field records options =>
    ofCollection (.text field) records (Value.entriesOfNamed options)
  | .hasMany field rows options => do
    let rows ← declareBody rows
    ofHasMany (.text field) (rows.map fun ds => RowBuilder.always (.declarations ds))
      (Value.entriesOfNamed options)
  | .actions body => do return .actions (← declareBody body)
  | .content markup => ofContent (.text markup) true
  | .text s => ofContent (.text s) false
  | .script s => ofScript (.text s)

/-- The declarations of a body, if one was written. -/
def declareBody : Option (List Written) → Except Fault (Option (List Declaration))
  | none => .ok none
  | some ws => some <$> declareAll ws

/-- The declarations that calls give, from the first to the last. -/
def declareAll : List Written → Except Fault (List Declaration)
  | [] => .ok []
  | w :: rest => do
    let d ← declare w
    return d :: (← declareAll rest)

end

mutual

/-- What is written, as a declaration. -/
def declaration : Written → Declaration
  | .input field options => .input field options
  | .group label body options => .group label (bodyDeclarations body) options
  | .collection field records options => .collection field (("collection", records) :: options)
  | .hasMany field rows options =>
    .hasMany field ((bodyDeclarations rows).map fun ds => RowBuilder.always (.declarations ds))
      options
  | .actions body => .actions (bodyDeclarations body)
  | .content markup => .content markup true
  | .text s => .content s false
  | .script s => .script s

/-- A body as declarations, if one was written. -/
def bodyDeclarations : Option (List Written) → Option (List Declaration)
  | none => none
  | some ws => some (declarations ws)

/-- All that is written, as declarations in order. -/
def declarations : List Written → List Declaration
  | [] => []
  | w :: rest => declaration w :: declarations rest

end

/-! ## Names that are taken -/

/-- No option has one of the names. -/
def avoids (taken : List String) (options : List (String × Value)) : Bool :=
  !options.any fun e => taken.contains e.1

mutual

/-- No option, here or in the items, has a name that the call takes for itself. -/
def isFree : Written → Bool
  | .input _ options => avoids ["field_name"] options
  | .group _ body options => avoids ["label", "body"] options && bodyFree body
  | .collection _ _ options => avoids ["field_name", "collection"] options
  | .hasMany _ rows options => avoids ["field_name", "builder"] options && bodyFree rows
  | .actions body => bodyFree body
  | .content _ | .text _ | .script _ => true

/-- The same of a body, if one was written. -/
def bodyFree : Option (List Written) → Bool
  | none => true
  | some ws => allFree ws

/-- The same of all that is written. -/
def allFree : List Written → Bool
  | [] => true
  | w :: rest => isFree w && allFree rest

end

/-! ## Items that are left out -/

/-- Items are needed, and none were written. -/
def lacksItems : Written → Bool
  | .group _ none _ | .hasMany _ none _ | .actions none => true
  | _ => false

/-- Items are left out at some depth of the groups. -/
inductive Omits : List Written → Prop where
  | here {ws : List Written} {w : Written} (mem : w ∈ ws) (lacks : w.lacksItems = true) : Omits ws
  | group {ws body : List Written} {label : String} {options : List (String × Value)}
      (mem : .group label (some body) options ∈ ws) (omits : Omits body) : Omits ws
  | actions {ws body : List Written} (mem : .actions (some body) ∈ ws) (omits : Omits body) :
      Omits ws

end Written

/-! ## Item tables -/

namespace Items

open Written

/-- The kind of a table. -/
def HasKind (entries : List (Value × Value)) (kind : String) : Prop :=
  Value.named? entries "kind" = some (.text kind)

/-- A table says a text, or leaves it out because it is empty. -/
def HasText (entries : List (Value × Value)) (name s : String) : Prop :=
  fieldOr entries name (.text "") = .text s

/-- A table has a table of options, or leaves it out because it is empty. -/
def HasOptions (entries : List (Value × Value)) (options : List (String × Value)) : Prop :=
  fieldOr entries "options" (.table []) = .table (Value.entriesOfNamed options)

mutual

/-- A value is an item table for what is written. -/
inductive Encodes : Value → Written → Prop where
  | input {entries : List (Value × Value)} {field : String} {options : List (String × Value)}
      (kind : HasKind entries "input") (words : HasText entries "field" field)
      (given : HasOptions entries options) : Encodes (.table entries) (.input field options)
  | group {entries : List (Value × Value)} {label : String} {body : Option (List Written)}
      {options : List (String × Value)} (kind : HasKind entries "inputs")
      (words : HasText entries "label" label) (given : HasOptions entries options)
      (items : EncodesBody (Value.named? entries "items") body) :
      Encodes (.table entries) (.group label body options)
  /-- The collection is one of the options of the table, at any place among them. -/
  | collection {entries : List (Value × Value)} {field : String} {records : Value}
      {options moved : List (String × Value)} (kind : HasKind entries "collection_inputs")
      (words : HasText entries "field" field) (given : HasOptions entries moved)
      (found : (moved.lookup "collection").getD .none = records)
      (others : moved.filter (fun e => !e.1 == "collection") = options) :
      Encodes (.table entries) (.collection field records options)
  | hasMany {entries : List (Value × Value)} {field : String} {rows : Option (List Written)}
      {options : List (String × Value)} (kind : HasKind entries "has_many")
      (words : HasText entries "field" field) (given : HasOptions entries options)
      (items : EncodesBody (Value.named? entries "items") rows) :
      Encodes (.table entries) (.hasMany field rows options)
  | actions {entries : List (Value × Value)} {body : Option (List Written)}
      (kind : HasKind entries "actions") (given : HasOptions entries [])
      (items : EncodesBody (Value.named? entries "items") body) :
      Encodes (.table entries) (.actions body)
  | content {entries : List (Value × Value)} {markup : String}
      (kind : HasKind entries "content") (words : HasText entries "content" markup)
      (given : HasOptions entries []) : Encodes (.table entries) (.content markup)
  | text {entries : List (Value × Value)} {s : String} (kind : HasKind entries "text")
      (words : HasText entries "content" s) (given : HasOptions entries []) :
      Encodes (.table entries) (.text s)
  | script {entries : List (Value × Value)} {s : String} (kind : HasKind entries "javascript")
      (words : HasText entries "script" s) (given : HasOptions entries []) :
      Encodes (.table entries) (.script s)

/-- What stands for the items of a table is a list of items for the body, or both are left out. -/
inductive EncodesBody : Option Value → Option (List Written) → Prop where
  | none : EncodesBody .none .none
  | some {items : List Value} {ws : List Written} (each : List.Forall₂ Encodes items ws) :
      EncodesBody (.some (.list items)) (.some ws)

end

/-! ## Loading what was encoded -/

theorem byName_entriesOfNamed (options : List (String × Value)) :
    Value.byName (Value.entriesOfNamed options) = .ok options := by
  induction options with
  | nil => rfl
  | cons e rest ih =>
    obtain ⟨name, v⟩ := e
    have named : Value.byName (Value.entriesOfNamed ((name, v) :: rest)) =
        Value.byName (Value.entriesOfNamed rest) >>= fun others => .ok ((name, v) :: others) := by
      unfold Value.byName Value.entriesOfNamed
      rw [List.map_cons, List.mapM_cons]
      rfl
    rw [named, ih]
    rfl

theorem namedOptions_of_avoids {taken : List String} {options : List (String × Value)}
    (free : avoids taken options = true) :
    namedOptions taken (Value.entriesOfNamed options) = .ok options := by
  have none : (options.any fun e => taken.contains e.1) = false := by
    simpa [avoids] using free
  unfold namedOptions
  rw [byName_entriesOfNamed, ok_bind, none]
  rfl

theorem ofInput_written {field : String} {options : List (String × Value)}
    (free : avoids ["field_name"] options = true) :
    ofInput (.text field) (Value.entriesOfNamed options) = .ok (.input field options) := by
  rw [ofInput, namedOptions_of_avoids free]
  rfl

theorem ofLabelled_written {label : String} {body : Except Fault (Option (List Declaration))}
    {given : Option (List Declaration)} {options : List (String × Value)}
    (free : avoids ["label", "body"] options = true) (evaluated : body = .ok given) :
    ofLabelled (.text label) body (Value.entriesOfNamed options) =
      .ok (.group label given options) := by
  rw [ofLabelled, namedOptions_of_avoids free, evaluated]
  rfl

theorem ofCollection_written {field : String} {records : Value}
    {options : List (String × Value)} (free : avoids ["field_name", "collection"] options = true) :
    ofCollection (.text field) records (Value.entriesOfNamed options) =
      .ok (.collection field (("collection", records) :: options)) := by
  rw [ofCollection, namedOptions_of_avoids free]
  rfl

theorem ofHasMany_written {field : String} {builder : Option RowBuilder}
    {options : List (String × Value)} (free : avoids ["field_name", "builder"] options = true) :
    ofHasMany (.text field) builder (Value.entriesOfNamed options) =
      .ok (.hasMany field builder options) := by
  rw [ofHasMany, namedOptions_of_avoids free]
  rfl

mutual

/-- A call gives what is written, if no name is taken. -/
theorem declare_written : ∀ w : Written, w.isFree = true → w.declare = .ok w.declaration
  | .input field options, free => by
    rw [declare, ofInput_written free]
    rfl
  | .group label body options, free => by
    simp only [isFree, Bool.and_eq_true] at free
    exact ofLabelled_written free.1 (declareBody_written body free.2)
  | .collection field records options, free => ofCollection_written free
  | .hasMany field rows options, free => by
    simp only [isFree, Bool.and_eq_true] at free
    rw [declare, declareBody_written rows free.2]
    exact ofHasMany_written free.1
  | .actions body, free => by
    rw [declare, declareBody_written body free]
    rfl
  | .content _, _ => rfl
  | .text _, _ => rfl
  | .script _, _ => rfl

theorem declareBody_written : ∀ body : Option (List Written), bodyFree body = true →
    declareBody body = .ok (bodyDeclarations body)
  | none, _ => rfl
  | some ws, free => by
    rw [declareBody, declareAll_written ws free]
    rfl

theorem declareAll_written : ∀ ws : List Written, allFree ws = true →
    declareAll ws = .ok (declarations ws)
  | [], _ => rfl
  | w :: rest, free => by
    simp only [allFree, Bool.and_eq_true] at free
    rw [declareAll, declare_written w free.1, declareAll_written rest free.2]
    rfl

end

/-- What is loaded from the items of a table depends on nothing else in it. -/
theorem loadChildren_eq (path : String) (entries : List (Value × Value)) :
    loadChildren path entries = match Value.named? entries "items" with
      | none => .ok none
      | some v => if v.isNone then .ok none else some <$> load (itemsPath path) v := by
  induction entries with
  | nil =>
    rw [loadChildren]
    rfl
  | cons e rest ih =>
    obtain ⟨key, v⟩ := e
    rw [loadChildren, Value.named?_cons]
    cases key.isText "items" with
    | true => rfl
    | false => exact ih

theorem entriesOf_given {entries : List (Value × Value)} {options : List (String × Value)}
    (given : HasOptions entries options) :
    Value.entriesOf (fieldOr entries "options" (.table [])) =
      .ok (Value.entriesOfNamed options) := by
  rw [given]
  rfl

/-- The collection is taken out of the options of a table. -/
theorem collection_moved {options moved : List (String × Value)}
    (others : moved.filter (fun e => !e.1 == "collection") = options) :
    (Value.entriesOfNamed moved).filter (fun e => !e.1.isText "collection") =
      Value.entriesOfNamed options := by
  rw [← others, Value.entriesOfNamed, List.filter_map]
  simp only [Function.comp_def, Value.isText_text]
  rfl

mutual

/-- **An item** is loaded as the declaration that it encodes. -/
theorem loadItem_encoded : ∀ (w : Written) {path : String} {v : Value}, Encodes v w →
    w.isFree = true → loadItem path v = .ok w.declaration
  | .input field options, path, _, .input kind words given, free => by
    rw [loadItem, Items.declaration, kind, entriesOf_given given, words]
    exact ofInput_written free
  | .group label body options, path, _, .group kind words given items, free => by
    simp only [isFree, Bool.and_eq_true] at free
    rw [loadItem, Items.declaration, kind, entriesOf_given given,
      loadBody_encoded body items free.2, words]
    exact ofLabelled_written free.1 rfl
  | .collection field records options, path, _, .collection kind words given found others,
      free => by
    rw [loadItem, Items.declaration, kind, entriesOf_given given, words]
    simp only [ok_bind, collection_moved others, Value.named?_entriesOfNamed, found]
    exact ofCollection_written free
  | .hasMany field rows options, path, _, .hasMany kind words given items, free => by
    simp only [isFree, Bool.and_eq_true] at free
    rw [loadItem, Items.declaration, kind, entriesOf_given given,
      loadBody_encoded rows items free.2, words]
    exact ofHasMany_written free.1
  | .actions body, path, _, .actions kind given items, free => by
    rw [loadItem, Items.declaration, kind, entriesOf_given given, loadBody_encoded body items free]
    rfl
  | .content markup, path, _, .content kind words given, free => by
    rw [loadItem, Items.declaration, kind, entriesOf_given given, words]
    rfl
  | .text s, path, _, .text kind words given, free => by
    rw [loadItem, Items.declaration, kind, entriesOf_given given, words]
    rfl
  | .script s, path, _, .script kind words given, free => by
    rw [loadItem, Items.declaration, kind, entriesOf_given given, words]
    rfl

theorem loadBody_encoded : ∀ (body : Option (List Written)) {path : String}
    {entries : List (Value × Value)}, EncodesBody (Value.named? entries "items") body →
    bodyFree body = true → loadChildren path entries = .ok (bodyDeclarations body)
  | none, path, entries, encoded, free => by
    rw [loadChildren_eq]
    generalize Value.named? entries "items" = items at encoded
    cases encoded
    rfl
  | some ws, path, entries, encoded, free => by
    rw [loadChildren_eq]
    generalize Value.named? entries "items" = items at encoded
    cases encoded with
    | some each =>
      simp only [bodyFree] at free
      simp only [Value.isNone, load, loadFrom_encoded ws each free]
      rfl

/-- **Items** are loaded as what they encode, in order. -/
theorem loadFrom_encoded : ∀ (ws : List Written) {path : String} {index : Nat}
    {items : List Value}, List.Forall₂ Encodes items ws → allFree ws = true →
    loadFrom path index items = .ok (declarations ws)
  | [], path, index, _, .nil, _ => by
    rw [loadFrom, declarations]
  | w :: rest, path, index, _, .cons head tail, free => by
    simp only [allFree, Bool.and_eq_true] at free
    rw [loadFrom, loadItem_encoded w head free.1, loadFrom_encoded rest tail free.2]
    rfl

end

/-! ## An item table for everything written -/

/-- An item table with its kind and other fields. -/
def itemTable (kind : String) (fields : List (String × Value)) : Value :=
  .table (Value.entriesOfNamed (("kind", .text kind) :: fields))

/-- The options of an item table. -/
def optionsField (options : List (String × Value)) : String × Value :=
  ("options", .table (Value.entriesOfNamed options))

mutual

/-- An item table for what is written. -/
def item : Written → Value
  | .input field options => itemTable "input" [("field", .text field), optionsField options]
  | .group label body options =>
    itemTable "inputs" (("label", .text label) :: optionsField options :: itemsField body)
  | .collection field records options =>
    itemTable "collection_inputs"
      [("field", .text field), optionsField (("collection", records) :: options)]
  | .hasMany field rows options =>
    itemTable "has_many" (("field", .text field) :: optionsField options :: itemsField rows)
  | .actions body => itemTable "actions" (itemsField body)
  | .content markup => itemTable "content" [("content", .text markup)]
  | .text s => itemTable "text" [("content", .text s)]
  | .script s => itemTable "javascript" [("script", .text s)]

/-- The items of an item table, if any were written. -/
def itemsField : Option (List Written) → List (String × Value)
  | none => []
  | some ws => [("items", .list (items ws))]

/-- An item list for what is written. -/
def items : List Written → List Value
  | [] => []
  | w :: rest => item w :: items rest

end

mutual

/-- Everything that can be written by calls can be written as an item table. -/
theorem item_encodes : ∀ w : Written, w.isFree = true → Encodes (item w) w
  | .input field options, _ => .input rfl rfl rfl
  | .group label none options, _ => .group rfl rfl rfl .none
  | .group label (some ws) options, free => by
    simp only [isFree, bodyFree, Bool.and_eq_true] at free
    exact .group rfl rfl rfl (.some (items_encode ws free.2))
  | .collection field records options, free => by
    refine .collection rfl rfl rfl rfl ?_
    rw [List.filter_cons_of_neg (by simp), List.filter_eq_self]
    intro e he
    simp only [isFree, avoids, Bool.not_eq_true', List.any_eq_false] at free
    have other := free e he
    simp at other
    simpa using other.2
  | .hasMany field none options, _ => .hasMany rfl rfl rfl .none
  | .hasMany field (some ws) options, free => by
    simp only [isFree, bodyFree, Bool.and_eq_true] at free
    exact .hasMany rfl rfl rfl (.some (items_encode ws free.2))
  | .actions none, _ => .actions rfl rfl .none
  | .actions (some ws), free => by
    simp only [isFree, bodyFree] at free
    exact .actions rfl rfl (.some (items_encode ws free))
  | .content markup, _ => .content rfl rfl rfl
  | .text s, _ => .text rfl rfl rfl
  | .script s, _ => .script rfl rfl rfl

theorem items_encode : ∀ ws : List Written, allFree ws = true →
    List.Forall₂ Encodes (items ws) ws
  | [], _ => .nil
  | w :: rest, free => by
    simp only [allFree, Bool.and_eq_true] at free
    exact .cons (item_encodes w free.1) (items_encode rest free.2)

end

/-! ## Items that are left out -/

theorem declaration_mem : ∀ {ws : List Written} {w : Written}, w ∈ ws →
    w.declaration ∈ declarations ws
  | _ :: _, _, .head _ => List.mem_cons_self
  | _ :: _, _, .tail _ mem => List.mem_cons_of_mem _ (declaration_mem mem)

theorem declaration_mem_filter {ws : List Written} {w : Written} (mem : w ∈ ws)
    (notScript : w.declaration.isScript = false) :
    w.declaration ∈ (declarations ws).filter (!·.isScript) :=
  List.mem_filter.mpr ⟨declaration_mem mem, by simp [notScript]⟩

/-- A declaration whose items are left out is a fault. -/
theorem lacking_causes : ∀ {w : Written}, w.lacksItems = true →
    w.declaration.isScript = false ∧ w.declaration.causes ≠ []
  | .group _ none _, _ => ⟨rfl, List.cons_ne_nil _ _⟩
  | .hasMany _ none _, _ => ⟨rfl, List.append_ne_nil_of_right_ne_nil _ (List.cons_ne_nil _ _)⟩
  | .actions none, _ => ⟨rfl, List.cons_ne_nil _ _⟩

/-- Items that are left out are a fault wherever they stand in the groups. -/
theorem omitted_within {ws : List Written} (omits : Omits ws) :
    ∃ way d, Within ((declarations ws).filter (!·.isScript)) way d ∧ d.causes ≠ [] := by
  induction omits with
  | here mem lacks =>
    obtain ⟨notScript, faulty⟩ := lacking_causes lacks
    exact ⟨[], _, .here (declaration_mem_filter mem notScript), faulty⟩
  | group mem _ ih =>
    obtain ⟨way, d, within, faulty⟩ := ih
    refine ⟨_, d, .group (declaration_mem_filter mem rfl) (within.mono ?_), faulty⟩
    exact fun e he => List.mem_of_mem_filter he
  | actions mem _ ih =>
    obtain ⟨way, d, within, faulty⟩ := ih
    refine ⟨_, d, .actions (declaration_mem_filter mem rfl) (within.mono ?_), faulty⟩
    exact fun e he => List.mem_of_mem_filter he

theorem of_mem_declarations : ∀ {ws : List Written} {d : Declaration}, d ∈ declarations ws →
    ∃ w : Written, d = w.declaration
  | w :: _, _, .head _ => ⟨w, rfl⟩
  | _ :: _, _, .tail _ mem => of_mem_declarations mem

/-- What is written is a declaration, so what is wrong with it can be said. -/
theorem within_unwritten {ds : List Declaration} {way : List Step} {d : Declaration}
    (within : Within ds way d) (written : ∀ e ∈ ds, ∃ w : Written, e = w.declaration) :
    d.unwritten = [] := by
  induction within with
  | here mem =>
    obtain ⟨w, rfl⟩ := written _ mem
    cases w <;> rfl
  | group mem _ ih =>
    obtain ⟨w, same⟩ := written _ mem
    cases w with
    | group label body options =>
      cases body with
      | none => cases same
      | some ws =>
        cases same
        exact ih fun e => of_mem_declarations
    | _ => cases same
  | actions mem _ ih =>
    obtain ⟨w, same⟩ := written _ mem
    cases w with
    | actions body =>
      cases body with
      | none => cases same
      | some ws =>
        cases same
        exact ih fun e => of_mem_declarations
    | _ => cases same

/-- What ends with the first of the faults of what is written is refused, and it is said where. -/
theorem refused_of_within {ds : List Declaration} {way : List Step} {d : Declaration}
    {α : Type} {x : Except FormFault α} (first : FirstOf (faultsAll [] ds) x)
    (written : ∀ e ∈ ds, ∃ w : Written, e = w.declaration)
    (within : Within ds way d) (faulty : d.causes ≠ []) :
    ∃ path cause, x = .error (.located path cause) := by
  obtain ⟨cause, causes, eq⟩ := List.exists_cons_of_ne_nil faulty
  have listed : .located (way ++ d.step?.toList) cause ∈ faultsAll [] ds := by
    refine mem_faultsAll.mpr ⟨way, d, within, ?_⟩
    rw [List.nil_append, ownFaults, faultsAt, eq]
    exact List.mem_cons_self
  obtain ⟨f, rest, all⟩ := List.exists_cons_of_ne_nil (List.ne_nil_of_mem listed)
  have mem : f ∈ faultsAll [] ds := all ▸ List.mem_cons_self
  obtain ⟨_, e, place, owned⟩ := mem_faultsAll.mp mem
  rw [ownFaults, within_unwritten place written, List.map_nil, List.append_nil] at owned
  obtain ⟨cause', -, rfl⟩ := List.mem_map.mp owned
  exact ⟨_, cause', (first.error_iff _).mpr ⟨rest, all⟩⟩

/-- **Items that are left out** are missed when the form is compiled, or the row. -/
theorem omitted_refused {ws : List Written} (omits : Omits ws) :
    (∀ resource, ∃ way cause, Tree.ofDescription (some (.declarations (declarations ws)))
      resource = .error (.form resource way cause)) ∧
    ∃ way cause, compileRow (.declarations (declarations ws)) = .fault (.located way cause) := by
  obtain ⟨way, d, within, faulty⟩ := omitted_within omits
  constructor
  · intro resource
    obtain ⟨path, cause, refused⟩ := refused_of_within
      (compileTop_first (some (.declarations (declarations ws))))
      (fun e he => of_mem_declarations (List.mem_of_mem_filter he)) within faulty
    exact ⟨path, cause, (ofDescription_error_iff _ _ _).mpr ⟨_, refused, rfl⟩⟩
  · have below : Within (declarations ws) way d :=
      within.mono fun e he => List.mem_of_mem_filter he
    obtain ⟨path, cause, refused⟩ := refused_of_within (compileAll_first (declarations ws) [])
      (fun e => of_mem_declarations) below faulty
    refine ⟨path, cause, ?_⟩
    rw [compileRow, refused]
    rfl

/-! ## Whole item lists -/

/-- **A form as item tables.** Items are loaded as the declarations of the calls that they encode.
The tree of the form, or its refusal, and every rendering of it are the same. Where items are left
out the list is loaded nevertheless, and it is the form that is refused, or the row. -/
theorem load_written (path : String) (ws : List Written) (values : List Value)
    (encoded : List.Forall₂ Encodes values ws) (free : allFree ws = true) :
    load path (.list values) = .ok (declarations ws) ∧
    declareAll ws = .ok (declarations ws) ∧
    (∀ resource,
      (do Tree.ofDescription (some (.declarations (← load path (.list values)))) resource) =
      (do Tree.ofDescription (some (.declarations (← declareAll ws))) resource)) ∧
    (∀ (r : Render.Renderer) resource c,
      (do
        let ds ← load path (.list values)
        r.form (← Tree.ofDescription (some (.declarations ds)) resource) c) =
      (do
        let ds ← declareAll ws
        r.form (← Tree.ofDescription (some (.declarations ds)) resource) c)) ∧
    (Omits ws →
      (∀ resource, ∃ way cause, Tree.ofDescription (some (.declarations (declarations ws)))
        resource = .error (.form resource way cause)) ∧
      ∃ way cause,
        compileRow (.declarations (declarations ws)) = .fault (.located way cause)) := by
  have loaded : load path (.list values) = .ok (declarations ws) := by
    rw [load]
    exact loadFrom_encoded ws encoded free
  have declared := declareAll_written ws free
  refine ⟨loaded, declared, fun resource => ?_, fun r resource c => ?_, omitted_refused⟩
  · rw [loaded, declared]
  · rw [loaded, declared]

/-- A form with a collection, rows and, in its actions, a group without items. -/
def contactForm : List Written := [
  .group "Details" (some [.input "name" [("as", .text "text")]]) [],
  .collection "groups" (.list [.int 1]) [("as", .text "check_boxes")],
  .hasMany "phones" (some [.input "number" []]) [],
  .actions (some [.group "" none [], .text "Save"]),
  .script "go();"]

theorem load_written_contactForm :
    List.Forall₂ Encodes (items contactForm) contactForm ∧ allFree contactForm = true ∧
    load "form.items" (.list (items contactForm)) = .ok (declarations contactForm) ∧
    ∃ way cause, Tree.ofDescription (some (.declarations (declarations contactForm))) "contact" =
      .error (.form "contact" way cause) := by
  have free : allFree contactForm = true := by decide +kernel
  have encoded := items_encode contactForm free
  obtain ⟨loaded, -, -, -, omitted⟩ :=
    load_written "form.items" contactForm (items contactForm) encoded free
  have save : Omits [.group "" none [], .text "Save"] := .here List.mem_cons_self rfl
  have omits : Omits contactForm := .actions (by simp [contactForm]) save
  exact ⟨encoded, free, loaded, (omitted omits).1 "contact"⟩

end Items

end Formwright.Form
