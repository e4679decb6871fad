import Mathlib.Data.List.TakeWhile
import Formwright.Proofs.Render.Names
import Formwright.Proofs.Words.Letters

/-!
# Names as paths

The name of a control is a path in brackets: the model, then for every relation on the way its key
and the index of the row, then the key of the control. A browser submits a value under its name, and
what is submitted is read as tables, one in the other, by the parts between the brackets.

- `decode`: the parameters that one control submits.
- `FieldScope.through`, `FieldScope.along`: the scope of a row some relations away.
- `nameParts_elementName`: a name has the parts of the path that it was made from.
- `decode_elementName`: a name is decoded into that path.
- `FieldScope.Under`: a name has one part after a prefix.
-/

namespace Formwright

open Text Words

/-! ## Brackets -/

/-- The text may be a part of a name. -/
def isBracketless (s : String) : Bool := s.toList.all fun ch => ch != '[' && ch != ']'

theorem isBracketless_iff {s : String} :
    isBracketless s = true ↔ '[' ∉ s.toList ∧ ']' ∉ s.toList := by
  simp only [isBracketless, List.all_eq_true, Bool.and_eq_true, bne_iff_ne]
  constructor
  · intro each
    exact ⟨fun mem => (each '[' mem).1 rfl, fun mem => (each ']' mem).2 rfl⟩
  · rintro ⟨opening, closing⟩ ch mem
    exact ⟨fun eq => opening (eq ▸ mem), fun eq => closing (eq ▸ mem)⟩

theorem isBracketless_append {s t : String} :
    isBracketless (s ++ t) = (isBracketless s && isBracketless t) := by
  simp [isBracketless, List.all_append]

theorem isBracketless_numeral (n : Nat) : isBracketless (toString n) = true := by
  refine isBracketless_iff.mpr ⟨fun mem => ?_, Rows.bracket_notMem_numeral n⟩
  exact absurd (Text.isDigit_of_mem_numeral mem) (by decide)

theorem isBracketless_rowsKey {relation : String} (h : isBracketless relation = true) :
    isBracketless (FieldScope.rowsKey relation) = true := by
  rw [FieldScope.rowsKey, isBracketless_append, h]
  rfl

/-- Irregular words have no brackets, in either case. -/
theorem irregular_bracketless : irregularPlurals.all (fun e => e.1.toList.all fun ch =>
    (ch != '[' && ch != ']') && (ch.toUpper != '[' && ch.toUpper != ']')) = true := by
  decide +kernel

theorem isBracketless_idsKey {field : String} (h : isBracketless field = true) :
    isBracketless (Render.Renderer.idsKey field) = true := by
  unfold Render.Renderer.idsKey
  rw [isBracketless_append, Bool.and_eq_true]
  exact ⟨singularize_all irregular_bracketless rfl h, rfl⟩

/-! ## Decoding names -/

/-- The parts of a name: what stands before the first bracket, and what stands in brackets. -/
def nameParts (name : String) : List String :=
  (splitAt '[' name.toList).map fun part => String.ofList (part.takeWhile (· != ']'))

/-- A value in tables, one in the other, under these keys. -/
def Value.nested (v : Value) : List String → Value
  | [] => v
  | key :: rest => .table [(.text key, v.nested rest)]

/-- The parameters that are submitted by a control of this name with this value. -/
def decode (name : String) (v : Value) : List (String × Value) :=
  match nameParts name with
  | [] => []
  | model :: parts => [(model, v.nested parts)]

/-- Parts in brackets, one after the other. -/
def bracketed (parts : List String) : List Char :=
  parts.flatMap fun part => '[' :: (part.toList ++ [']'])

theorem splitAt_whole {part : List Char} (h : '[' ∉ part) : splitAt '[' part = [part] := by
  induction part with
  | nil => rfl
  | cons ch part ih =>
    have other : ch ≠ '[' := fun eq => h (eq ▸ List.mem_cons_self)
    have rest := ih fun mem => h (List.mem_cons_of_mem ch mem)
    simp [splitAt, other, rest]

theorem splitAt_append {part : List Char} (h : '[' ∉ part) (rest : List Char) :
    splitAt '[' (part ++ '[' :: rest) = part :: splitAt '[' rest := by
  induction part with
  | nil => simp [splitAt]
  | cons ch part ih =>
    have other : ch ≠ '[' := fun eq => h (eq ▸ List.mem_cons_self)
    have tail := ih fun mem => h (List.mem_cons_of_mem ch mem)
    simp [splitAt, other, tail]

theorem splitAt_bracketed {start : List Char} (h : '[' ∉ start) {parts : List String}
    (free : ∀ part ∈ parts, isBracketless part = true) :
    splitAt '[' (start ++ bracketed parts) =
      start :: parts.map fun part => part.toList ++ [']'] := by
  induction parts generalizing start with
  | nil =>
    rw [bracketed, List.flatMap_nil, List.append_nil, splitAt_whole h]
    rfl
  | cons part parts ih =>
    have opening := (isBracketless_iff.mp (free part List.mem_cons_self)).1
    -- the closing bracket goes with the part, so that the next split is at an opening one
    have rest : splitAt '[' ((part.toList ++ [']']) ++ bracketed parts) = _ :=
      ih (by simp [opening]) fun p mem => free p (List.mem_cons_of_mem part mem)
    rw [bracketed, List.flatMap_cons, List.cons_append, splitAt_append h, ← bracketed, rest]
    rfl

/-- A name made from bracketless parts has these parts. -/
theorem nameParts_bracketed {model : String} (h : isBracketless model = true)
    {parts : List String} (free : ∀ part ∈ parts, isBracketless part = true) {name : String}
    (made : name.toList = model.toList ++ bracketed parts) : nameParts name = model :: parts := by
  obtain ⟨opening, closing⟩ := isBracketless_iff.mp h
  have whole : model.toList.takeWhile (· != ']') = model.toList :=
    List.takeWhile_eq_self_iff.mpr fun ch mem => by
      simpa using fun eq : ch = ']' => closing (eq ▸ mem)
  have each : ∀ part ∈ parts,
      String.ofList ((part.toList ++ [']']).takeWhile (· != ']')) = part := by
    intro part mem
    rw [Rows.takeWhile_bracket (isBracketless_iff.mp (free part mem)).2, String.ofList_toList]
  rw [nameParts, made, splitAt_bracketed opening free, List.map_cons, whole, String.ofList_toList,
    List.map_map]
  exact congrArg (model :: ·) ((List.map_congr_left each).trans (List.map_id _))

/-! ## Rows on the way -/

theorem FieldScope.rowsKey_injective {relation relation' : String}
    (h : rowsKey relation = rowsKey relation') : relation = relation' :=
  (String.append_left_inj "_attributes").mp h

/-- The parts that rows add to a name: of every row the key of its relation, and its index. -/
def rowParts (rows : List (String × String)) : List String :=
  rows.flatMap fun row => [FieldScope.rowsKey row.1, row.2]

namespace FieldScope

/-- The scope behind rows, each given by its relation and its index as it is printed. -/
def through (s : FieldScope) (rows : List (String × String)) : FieldScope :=
  rows.foldl (fun s row => s.nested row.1 row.2) s

theorem toList_through (s : FieldScope) (rows : List (String × String)) (key : String) :
    ((s.through rows).elementName key).toList =
      s.namePrefix.toList ++ bracketed (rowParts rows ++ [key]) := by
  induction rows generalizing s with
  | nil => simp [through, toList_elementName, bracketed, rowParts]
  | cons row rest ih =>
    change (((s.nested row.1 row.2).through rest).elementName key).toList = _
    rw [ih, toList_nested]
    simp [bracketed, rowParts, rowsPrefix]

end FieldScope

/-- Rows on the way whose relations and indices may be parts of a name. -/
def areBracketless (rows : List (String × String)) : Bool :=
  rows.all fun row => isBracketless row.1 && isBracketless row.2

theorem isBracketless_of_mem_rowParts {rows : List (String × String)} {part : String}
    (free : areBracketless rows = true) (mem : part ∈ rowParts rows) :
    isBracketless part = true := by
  obtain ⟨row, row_mem, mem⟩ := List.mem_flatMap.mp mem
  have both := List.all_eq_true.mp free row row_mem
  rw [Bool.and_eq_true] at both
  simp only [List.mem_cons, List.not_mem_nil, or_false] at mem
  rcases mem with rfl | rfl
  · exact isBracketless_rowsKey both.1
  · exact both.2

/-- **Names are read back.** A name has the parts of the path that it was made from. -/
theorem nameParts_elementName {model key : String} {rows : List (String × String)}
    (modelFree : isBracketless model = true) (keyFree : isBracketless key = true)
    (rowsFree : areBracketless rows = true) :
    nameParts (((FieldScope.ofModel model).through rows).elementName key) =
      model :: (rowParts rows ++ [key]) := by
  refine nameParts_bracketed modelFree ?_ (FieldScope.toList_through _ rows key)
  intro part mem
  rcases List.mem_append.mp mem with mem | mem
  · exact isBracketless_of_mem_rowParts rowsFree mem
  · rw [List.mem_singleton.mp mem]
    exact keyFree

/-! ## The way to a row -/

/-- Relations, each with the index of a row. -/
abbrev Way := List (String × Nat)

namespace Way

/-- The relations of a way. -/
def relations (way : Way) : List String := way.map Prod.fst

/-- The parts that a way adds to a name. -/
def parts (way : Way) : List String :=
  way.flatMap fun step => [FieldScope.rowsKey step.1, toString step.2]

/-- The rows on a way with their indices as they are printed. -/
def printed (way : Way) : List (String × String) := way.map fun step => (step.1, toString step.2)

theorem rowParts_printed (way : Way) : rowParts way.printed = way.parts := by
  rw [rowParts, printed, List.flatMap_map]
  rfl

theorem printed_bracketless {way : Way}
    (free : ∀ relation ∈ way.relations, isBracketless relation = true) :
    areBracketless way.printed = true := by
  rw [areBracketless, printed, List.all_map, List.all_eq_true]
  intro step mem
  rw [Function.comp_apply, Bool.and_eq_true]
  exact ⟨free step.1 (List.mem_map_of_mem mem), isBracketless_numeral step.2⟩

/-- The values submitted at the start of a way when one value is submitted at its end. -/
def submission (key : String) (v : Value) : Way → List (Value × Value)
  | [] => [(.text key, v)]
  | (relation, i) :: rest =>
    [(.text (FieldScope.rowsKey relation),
      .table [(.text (toString i), .table (submission key v rest))])]

theorem nested_parts (key : String) (v : Value) (way : Way) :
    v.nested (way.parts ++ [key]) = .table (way.submission key v) := by
  induction way with
  | nil => rfl
  | cons step rest ih =>
    obtain ⟨relation, i⟩ := step
    change v.nested (FieldScope.rowsKey relation :: toString i :: (parts rest ++ [key])) = _
    rw [Value.nested, Value.nested, ih]
    rfl

/-- The row at the end of a way from a record. -/
def row? (record : Value) : Way → Option Value
  | [] => some record
  | (relation, i) :: rest => do
    let rows ← (record.field relation).membersOrNone.toOption
    let row ← rows[i]?
    row? row rest

end Way

namespace FieldScope

/-- The scope of the row at the end of a way. -/
def along (s : FieldScope) : Way → FieldScope
  | [] => s
  | (relation, i) :: rest => (s.nested relation (toString i)).along rest

theorem along_eq_through (s : FieldScope) (way : Way) : s.along way = s.through way.printed := by
  induction way generalizing s with
  | nil => rfl
  | cons step rest ih => exact ih (s.nested step.1 (toString step.2))

end FieldScope

/-- **Names are paths.** A name is decoded into the path that it was made from. -/
theorem decode_elementName {model key : String} {way : Way} (v : Value)
    (modelFree : isBracketless model = true) (keyFree : isBracketless key = true)
    (wayFree : ∀ relation ∈ way.relations, isBracketless relation = true) :
    decode (((FieldScope.ofModel model).along way).elementName key) v =
      [(model, .table (way.submission key v))] := by
  rw [decode, FieldScope.along_eq_through,
    nameParts_elementName modelFree keyFree (Way.printed_bracketless wayFree),
    Way.rowParts_printed]
  simp only [Way.nested_parts]

/-! ## Names under a prefix -/

namespace FieldScope

/-- The name has this part after the prefix of the scope. -/
def Under (s : FieldScope) (part name : String) : Prop := ∃ rest, name = s.elementName part ++ rest

variable {s : FieldScope} {part part' name relation index : String}

theorem under_elementName (s : FieldScope) (part : String) : s.Under part (s.elementName part) :=
  ⟨"", String.append_empty.symm⟩

/-- A name has one part at most after a prefix. -/
theorem Under.unique (h : s.Under part name) (h' : s.Under part' name)
    (free : isBracketless part = true) (free' : isBracketless part' = true) : part = part' := by
  obtain ⟨rest, eq⟩ := h
  obtain ⟨rest', eq'⟩ := h'
  have same : part.toList ++ ']' :: rest.toList = part'.toList ++ ']' :: rest'.toList := by
    have both := congrArg String.toList (eq.symm.trans eq')
    simp only [String.toList_append, toList_elementName, List.append_assoc, List.cons_append,
      List.nil_append] at both
    exact (List.cons.inj (List.append_cancel_left both)).2
  -- both parts end at the first closing bracket
  have parts := congrArg (List.takeWhile (· != ']')) same
  rw [Rows.takeWhile_bracket (isBracketless_iff.mp free).2,
    Rows.takeWhile_bracket (isBracketless_iff.mp free').2] at parts
  exact String.toList_inj.mp parts

/-- A name in a row is a name under the key of the rows. -/
theorem Under.of_nested (h : (s.nested relation index).Under part name) :
    s.Under (rowsKey relation) name := by
  obtain ⟨rest, rfl⟩ := h
  refine ⟨"[" ++ index ++ "][" ++ part ++ "]" ++ rest, ?_⟩
  apply String.toList_inj.mp
  simp [elementName, nested]

theorem Under.isPrefix (h : s.Under part name) : s.namePrefix.toList <+: name.toList := by
  obtain ⟨rest, rfl⟩ := h
  rw [String.toList_append, toList_elementName, List.append_assoc]
  exact List.prefix_append _ _

/-- A name is in one row of a relation at most. -/
theorem Under.row_unique {i j : Nat} (h : (s.nested relation (toString i)).Under part name)
    (h' : (s.nested relation (toString j)).Under part' name) : i = j := by
  have mem : ∀ k, k < i + j + 1 → toString k ∈ Rows.indices relation (i + j + 1) := fun k bound =>
    List.mem_append_left _ (List.mem_map_of_mem (List.mem_range.mpr bound))
  exact Text.numeral_injective
    (Rows.index_unique (mem i (by omega)) (mem j (by omega)) h.isPrefix h'.isPrefix)

/-- A name in a row is not in the template. -/
theorem Under.not_template {i : Nat} (h : (s.nested relation (toString i)).Under part name) :
    ¬ (s.nested relation (Rows.sentinel relation)).Under part' name := by
  intro h'
  have inRow : toString i ∈ Rows.indices relation (i + 1) :=
    List.mem_append_left _ (List.mem_map_of_mem (List.mem_range.mpr (by omega)))
  have inTemplate : Rows.sentinel relation ∈ Rows.indices relation (i + 1) :=
    List.mem_append_right _ List.mem_cons_self
  have same := Rows.index_unique inRow inTemplate h.isPrefix h'.isPrefix
  exact Rows.numeral_ne_sentinel [] [] (congrArg (String.toList · ++ []) same)

/-- The name at the end of a way is a name in the first row on it. -/
theorem under_along (s : FieldScope) (relation : String) (i : Nat) (rest : Way) (key : String) :
    ∃ part, (s.nested relation (toString i)).Under part
      ((s.along ((relation, i) :: rest)).elementName key) := by
  induction rest generalizing s relation i with
  | nil => exact ⟨key, under_elementName _ key⟩
  | cons step rest ih =>
    obtain ⟨next, j⟩ := step
    -- what is under the next row is under the key of its rows in this one
    obtain ⟨part, under⟩ := ih (s.nested relation (toString i)) next j
    exact ⟨_, under.of_nested⟩

end FieldScope

end Formwright
