import Mathlib.Data.List.Induction
import Formwright.Proofs.Render.Places
import Formwright.Proofs.Value.Named
import Formwright.Render.Rows

/-!
# Submitted values put into a record

Submitted values are put over the values of a record key by key. Where a key is a relation of the
form, what was submitted for its rows is put into the related records, each by its index, and so on
for the relations of the rows.

- `Form.Node.blocks`, `Form.rowNodes`: the relations of nodes, and the nodes of their rows.
- `merged`: a record with submitted values.
- `field_merged`, `relation_merged`: what is found in it.
-/

namespace Formwright

namespace Value

/-- Only a text is the same as a text. -/
theorem same_of_string? {key : Value} {name : String} (h : key.string? = some name) (v : Value) :
    same v key = v.isText name := by
  cases key with
  | text s =>
    obtain rfl := Option.some.inj h
    cases v <;> simp [same, equal?, equalAtoms?, isNumber, sameAtom, quantity?, infinite?, string?,
      isText]
  | markup s =>
    obtain rfl := Option.some.inj h
    cases v <;> simp [same, equal?, equalAtoms?, isNumber, sameAtom, quantity?, infinite?, string?,
      isText]
  | _ => cases h

theorem isText_iff {v : Value} {name : String} : v.isText name = true ↔ v.string? = some name := by
  rw [isText, beq_iff_eq]

/-- A value under a key that is a text is a value under this text. -/
theorem entry_of_isText {key : Value} {name : String} (h : key.isText name = true)
    (entries : List (Value × Value)) : entry? entries key = named? entries name := by
  simp only [named?, entry?, same_of_string? (isText_iff.mp h)]

end Value

namespace Form

/-! ## The relations of nodes -/

mutual

/-- The relations of a node, each with the nodes that its builder gives for a row without a record.
-/
def Node.blocks : Node → List (String × List Node)
  | .fieldset _ body _ => Node.allBlocks body
  | .actions body => Node.allBlocks body
  | .hasMany field rows _ => [(field, (rows .none).given)]
  | _ => []

/-- The relations of nodes, each with the nodes of such a row. -/
def Node.allBlocks : List Node → List (String × List Node)
  | [] => []
  | n :: rest => n.blocks ++ Node.allBlocks rest

end

/-- The key is a relation of the nodes. -/
def isRelation (ns : List Node) (name : String) : Bool :=
  (Node.allBlocks ns).any fun block => block.1 == name

/-- The nodes of the rows of a relation. -/
def rowNodes (ns : List Node) (relation : String) : List Node :=
  (Node.allBlocks ns).flatMap fun block => if block.1 = relation then block.2 else []

/-- The nodes of the rows at the end of a path. -/
def nodesAt (ns : List Node) (path : List String) : List Node := path.foldl rowNodes ns

theorem nodesAt_append (ns : List Node) (path : List String) (relation : String) :
    nodesAt ns (path ++ [relation]) = rowNodes (nodesAt ns path) relation := by
  simp [nodesAt]

theorem mem_allBlocks {ns : List Node} {block : String × List Node} :
    block ∈ Node.allBlocks ns ↔ ∃ n ∈ ns, block ∈ n.blocks := by
  induction ns with
  | nil => simp [Node.allBlocks]
  | cons n rest ih => simp [Node.allBlocks, ih]

theorem isRelation_iff {ns : List Node} {name : String} :
    isRelation ns name = true ↔ ∃ given, (name, given) ∈ Node.allBlocks ns := by
  simp [isRelation]

theorem mem_rowNodes {ns : List Node} {relation : String} {n : Node} :
    n ∈ rowNodes ns relation ↔ ∃ given, (relation, given) ∈ Node.allBlocks ns ∧ n ∈ given := by
  constructor
  · intro mem
    obtain ⟨⟨name, given⟩, block, inBlock⟩ := List.mem_flatMap.mp mem
    split at inBlock
    · rename_i eq
      obtain rfl : name = relation := eq
      exact ⟨given, block, inBlock⟩
    · cases inBlock
  · rintro ⟨given, block, mem⟩
    refine List.mem_flatMap.mpr ⟨_, block, ?_⟩
    rwa [if_pos rfl]

end Form

namespace Render

open Form Outcome

namespace Placed

variable {r : Renderer} {ns : List Form.Node} {model m : String} {path : List String}
  {n : Form.Node}

/-- The relations of a node are relations of the rows that it is in, if builders are constant. -/
theorem blocks (unvarying : ∀ {path : List String} {m field : String} {rows : Value → RowForm}
    {o : FieldOptions}, Placed r ns model path m (.hasMany field rows o) → Unvarying rows)
    (h : Placed r ns model path m n) :
    ∀ block ∈ n.blocks, block ∈ Node.allBlocks (nodesAt ns path) := by
  induction h with
  | top mem => exact fun block inNode => mem_allBlocks.mpr ⟨_, mem, inNode⟩
  | grouped _ mem ih =>
    intro block inNode
    refine ih block ?_
    rw [Node.blocks]
    exact mem_allBlocks.mpr ⟨_, mem, inNode⟩
  | action _ mem ih =>
    intro block inNode
    refine ih block ?_
    rw [Node.blocks]
    exact mem_allBlocks.mpr ⟨_, mem, inNode⟩
  | row placed record mem ih =>
    rename_i field rows o n
    intro block inNode
    have isBlock : (field, (rows .none).given) ∈ Node.allBlocks (nodesAt ns _) :=
      ih _ (by rw [Node.blocks]; exact List.mem_singleton_self _)
    rw [unvarying placed record] at mem
    rw [nodesAt_append]
    exact mem_allBlocks.mpr ⟨n, mem_rowNodes.mpr ⟨_, isBlock, mem⟩, inNode⟩

mutual

theorem of_block : ∀ (n : Form.Node), Placed r ns model path m n →
    ∀ {relation : String} {given : List Form.Node}, (relation, given) ∈ n.blocks →
      ∃ rows o, Placed r ns model path m (.hasMany relation rows o) ∧
        (rows .none).given = given
  | .fieldset _ body _, h, _, _, mem => of_blocks body (fun _ inBody => h.grouped inBody) mem
  | .actions body, h, _, _, mem => of_blocks body (fun _ inBody => h.action inBody) mem
  | .hasMany field rows o, h, relation, given, mem => by
    rw [Node.blocks, List.mem_singleton, Prod.mk.injEq] at mem
    obtain ⟨rfl, rfl⟩ := mem
    exact ⟨rows, o, h, rfl⟩
  | .input _ _, _, _, _, mem => nomatch mem
  | .content _ _, _, _, _, mem => nomatch mem
  | .script _, _, _, _, mem => nomatch mem

theorem of_blocks : ∀ (body : List Form.Node), (∀ n ∈ body, Placed r ns model path m n) →
    ∀ {relation : String} {given : List Form.Node}, (relation, given) ∈ Node.allBlocks body →
      ∃ rows o, Placed r ns model path m (.hasMany relation rows o) ∧
        (rows .none).given = given
  | [], _, _, _, mem => nomatch mem
  | n :: rest, h, relation, given, mem => by
    rcases List.mem_append.mp mem with mem | mem
    · exact of_block n (h n List.mem_cons_self) mem
    · exact of_blocks rest (fun n' inRest => h n' (List.mem_cons_of_mem _ inRest)) mem

end

/-- The nodes of rows at the end of a path are where the path leads. -/
theorem of_nodesAt (r : Renderer) (ns : List Form.Node) (model : String) (path : List String) :
    ∃ m, ∀ n ∈ nodesAt ns path, Placed r ns model path m n := by
  induction path using List.reverseRecOn with
  | nil => exact ⟨model, fun n mem => .top mem⟩
  | append_singleton path relation ih =>
    obtain ⟨m, ih⟩ := ih
    refine ⟨r.relatedModel m relation, fun n mem => ?_⟩
    rw [nodesAt_append] at mem
    -- the last relation is that of a node where the rest of the path leads
    obtain ⟨given, block, inRows⟩ := mem_rowNodes.mp mem
    obtain ⟨rows, o, placed, rfl⟩ := of_blocks (nodesAt ns path) ih block
    exact placed.row .none inRows

/-- A relation of rows is that of a node there. -/
theorem of_isRelation {relation : String} (r : Renderer) (model : String)
    (h : isRelation (nodesAt ns path) relation = true) :
    ∃ m rows o, Placed r ns model path m (.hasMany relation rows o) := by
  obtain ⟨m, here⟩ := of_nodesAt r ns model path
  obtain ⟨given, block⟩ := isRelation_iff.mp h
  obtain ⟨rows, o, placed, -⟩ := of_blocks (nodesAt ns path) here block
  exact ⟨m, rows, o, placed⟩

/-- The relation of a node is a relation of the rows that the node is in. -/
theorem isRelation (unvarying : ∀ {path : List String} {m field : String}
    {rows : Value → RowForm} {o : FieldOptions},
    Placed r ns model path m (.hasMany field rows o) → Unvarying rows)
    {relation : String} {rows : Value → RowForm} {o : FieldOptions}
    (h : Placed r ns model path m (.hasMany relation rows o)) :
    Form.isRelation (nodesAt ns path) relation = true := by
  refine isRelation_iff.mpr ⟨(rows .none).given, h.blocks unvarying _ ?_⟩
  rw [Node.blocks]
  exact List.mem_singleton_self _

end Placed

/-! ## Merging -/

/-- What was submitted for a row, nothing at all if no values were. -/
def rowValues (submitted : Value) (index : Nat) : List (Value × Value) :=
  (Rows.values submitted index).getD []

/-- The relation of the nodes that a key is, if it is one. -/
def relationOf? (ns : List Form.Node) (key : Value) : Option String :=
  key.string?.filter (isRelation ns)

mutual

/-- A record with submitted values put into it, for the nodes that it is drawn with. -/
def merged (ns : List Form.Node) (values : List (Value × Value)) : Value → Value
  | .table entries => .table (mergedEntries ns values entries ++
    values.filter fun e => ( Value.entry? entries e.1).isNone)
  | record => record
termination_by structural record => record

/-- The entries of a record with submitted values put over them. -/
def mergedEntries (ns : List Form.Node) (values : List (Value × Value)) :
    List (Value × Value) → List (Value × Value)
  | [] => []
  | (key, v) :: rest =>
    (key, match relationOf? ns key with
      | some relation => mergedRows (rowNodes ns relation)
          (.ofOption (Value.named? values (FieldScope.rowsKey relation))) v
      | none => ( Value.entry? values key).getD v) :: mergedEntries ns values rest
termination_by structural entries => entries

/-- Related records with what was submitted for them. -/
def mergedRows (ns : List Form.Node) (submitted : Value) : Value → Value
  | .list items => .list (mergedItems ns submitted 0 items)
  | .tuple items => .tuple (mergedItems ns submitted 0 items)
  | v => v
termination_by structural v => v

/-- Records with what was submitted for them, numbered from `index`. -/
def mergedItems (ns : List Form.Node) (submitted : Value) (index : Nat) : List Value → List Value
  | [] => []
  | record :: rest =>
    merged ns (rowValues submitted index) record :: mergedItems ns submitted (index + 1) rest
termination_by structural records => records

end

/-! ## What is found in a merged record -/

section

variable {ns : List Form.Node} {values entries : List (Value × Value)} {name : String}

theorem relationOf?_of_isText {key : Value} (h : key.isText name = true) :
    relationOf? ns key = if isRelation ns name then some name else none := by
  rw [relationOf?, Value.isText_iff.mp h]
  by_cases relation : isRelation ns name = true
  · simp [relation]
  · simp [relation]

theorem named?_mergedEntries :
    Value.named? (mergedEntries ns values entries) name =
      (Value.named? entries name).map fun v =>
        if isRelation ns name then
          mergedRows (rowNodes ns name)
            (.ofOption (Value.named? values (FieldScope.rowsKey name))) v
        else (Value.named? values name).getD v := by
  induction entries with
  | nil => rfl
  | cons e rest ih =>
    obtain ⟨key, v⟩ := e
    rw [mergedEntries, Value.named?_cons, Value.named?_cons, ih]
    -- the first entry of the name counts, in the record and in what is merged
    cases isName : key.isText name with
    | false => rfl
    | true =>
      rw [relationOf?_of_isText isName, Value.entry_of_isText isName]
      cases isRelation ns name <;> rfl

theorem named?_append (xs ys : List (Value × Value)) :
    Value.named? (xs ++ ys) name = (Value.named? xs name).or (Value.named? ys name) := by
  simp only [Value.named?, List.find?_append]
  cases xs.find? fun e => e.1.isText name <;> rfl

/-- A name that the record does not have is found among the values put at its end. -/
theorem named?_filter (absent : Value.named? entries name = none) :
    Value.named? (values.filter fun e => ( Value.entry? entries e.1).isNone) name =
      Value.named? values name := by
  induction values with
  | nil => rfl
  | cons e rest ih =>
    obtain ⟨key, v⟩ := e
    rw [List.filter_cons, Value.named?_cons]
    cases isName : key.isText name with
    | true =>
      rw [Value.entry_of_isText isName, absent]
      simp [Value.named?_cons, isName]
    | false =>
      split
      · rw [Value.named?_cons, isName, ih]
      · exact ih

/-- A record that values can be put into: a table, or none at all if there are no values. -/
def TakesValues (values : List (Value × Value)) (record : Value) : Prop :=
  (∃ entries, record = .table entries) ∨ record = .none ∧ values = []

/-- **Values over a record.** A key that is no relation has the submitted value, or else that of the
record. -/
theorem field_merged {record : Value} (takes : TakesValues values record)
    (other : isRelation ns name = false) :
    (merged ns values record).field name =
      (Value.named? values name).getD (record.field name) := by
  rcases takes with ⟨entries, rfl⟩ | ⟨rfl, rfl⟩
  · rw [merged, Value.field, Value.field?, named?_append, named?_mergedEntries]
    cases found : Value.named? entries name with
    | some v =>
      rw [Value.field, Value.field?, found]
      simp [other, Value.ofOption]
    | none =>
      rw [named?_filter found, Value.field, Value.field?, found]
      cases Value.named? values name <;> rfl
  · rfl

/-- **Related records.** Under a relation are the related records, with what was submitted for
them. -/
theorem relation_merged {record : Value} (takes : TakesValues values record)
    (isRelation : isRelation ns name = true) (unsubmitted : Value.named? values name = none) :
    (merged ns values record).field name = mergedRows (rowNodes ns name)
      (.ofOption (Value.named? values (FieldScope.rowsKey name))) (record.field name) := by
  rcases takes with ⟨entries, rfl⟩ | ⟨rfl, rfl⟩
  · rw [merged, Value.field, Value.field?, named?_append, named?_mergedEntries]
    cases found : Value.named? entries name with
    | some v =>
      rw [Value.field, Value.field?, found]
      simp [isRelation, Value.ofOption]
    | none =>
      rw [named?_filter found, Value.field, Value.field?, found, unsubmitted]
      rfl
  · rfl

theorem isNone_merged (record : Value) : (merged ns values record).isNone = record.isNone := by
  cases record <;> rfl

end

/-! ## Related records one by one -/

theorem length_mergedItems (ns : List Form.Node) (submitted : Value) (index : Nat)
    (records : List Value) : (mergedItems ns submitted index records).length = records.length := by
  induction records generalizing index with
  | nil => rfl
  | cons record rest ih => rw [mergedItems, List.length_cons, List.length_cons, ih]

theorem getElem?_mergedItems (ns : List Form.Node) (submitted : Value) (index i : Nat)
    (records : List Value) : (mergedItems ns submitted index records)[i]? =
      records[i]?.map (merged ns (rowValues submitted (index + i))) := by
  induction records generalizing index i with
  | nil => rfl
  | cons record rest ih =>
    rw [mergedItems]
    cases i with
    | zero => rfl
    | succ i =>
      rw [List.getElem?_cons_succ, List.getElem?_cons_succ, ih, Nat.add_right_comm, Nat.add_assoc]

/-- Related records stand in a list or a tuple. -/
def HasSequence (related : Value) : Prop :=
  ∀ record rest, related.membersOrNone = .ok (record :: rest) →
    ∃ records, related = .list records ∨ related = .tuple records

theorem membersOrNone_of_sequence {related : Value} {records : List Value}
    (sequence : related = .list records ∨ related = .tuple records) :
    related.membersOrNone = .ok records := by
  rcases sequence with rfl | rfl <;> cases records <;> rfl

/-- The merged records stand where the related records stand. -/
theorem members_merged (ns : List Form.Node) (submitted : Value) {related : Value}
    (sequence : HasSequence related) :
    Alike (fun records records' => records' = mergedItems ns submitted 0 records)
      related.membersOrNone (mergedRows ns submitted related).membersOrNone := by
  -- nothing that is no sequence has related records
  have others : (∀ records, related ≠ .list records ∧ related ≠ .tuple records) →
      Alike (fun records records' => records' = mergedItems ns submitted 0 records)
        related.membersOrNone related.membersOrNone := by
    intro other
    refine Alike.refl fun records members => ?_
    cases records with
    | nil => rfl
    | cons record rest =>
      obtain ⟨records, isList | isTuple⟩ := sequence record rest members
      · exact absurd isList (other records).1
      · exact absurd isTuple (other records).2
  cases related with
  | list records =>
    rw [mergedRows, membersOrNone_of_sequence (.inl rfl), membersOrNone_of_sequence (.inl rfl)]
    exact .ok rfl
  | tuple records =>
    rw [mergedRows, membersOrNone_of_sequence (.inr rfl), membersOrNone_of_sequence (.inr rfl)]
    exact .ok rfl
  | _ => exact others fun records => ⟨nofun, nofun⟩

end Render

end Formwright
