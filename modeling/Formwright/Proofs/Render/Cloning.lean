import Formwright.Proofs.Render.Brackets
import Formwright.Proofs.Render.Printing
import Formwright.Proofs.Render.Rows

/-!
# Cloning the template of a row

The template of a new row is drawn under a sentinel in place of an index, and a script makes rows of
it by replacing the sentinel. This is right because a row prints its index and does nothing else
with it: everything in a row, down to the templates of the relations in it, is the same open text
closed with another index.

- `node_uniform`: a node is drawn alike for every index.
- `Html.chars`: the characters of a tree, for looking into the text of a small one.
- `Index.ofSentinel`, `Index.ofNat`: the sentinel of a relation and numerals as indices.
- `blankRow`: a row without a record under an index.
- `hasMany_cloned`: replacing the sentinel in the template gives the row under a number.
-/

namespace Formwright

open Form Html Outcome Text

namespace Render

variable {r : Renderer} {c : Context}

/-! ## Parts of a form -/

/-- What is drawn prints the index. -/
def Output.Prints (out : Index → Output) : Prop := PrintsAll fun i => (out i).html

theorem joinLines_prints {blocks : Index → List (List Html)} (h : Each PrintsAll blocks) :
    PrintsAll fun i => joinLines (blocks i) := by
  induction h with
  | nil => exact Prints.const _
  | cons first rest ih =>
    cases rest with
    | nil => exact first
    | cons second rest =>
      have separated : PrintsAll fun _ => [lineFeed] := Prints.const _
      exact first.append (separated.append ih)

theorem Output.lines_prints {parts : Index → List Output} (h : Each Output.Prints parts) :
    Output.Prints fun i => .lines (parts i) :=
  joinLines_prints (h.map fun _ prints => prints)

namespace Renderer

theorem fieldset_uniform (label : String) (o : FieldOptions) {body : Index → Output}
    (h : Output.Prints body) : Uniform Output.Prints fun i => r.fieldset c label o (body i) := by
  refine (r.drawing.theme.fill_uniform _ ?_).bind fun html prints => .ok prints
  exact .entry (.value (.fixed _ _)) (.entry (.fragment h) (.entry (.value (.fixed _ _)) .nil))

theorem actions_uniform {body : Index → Output} (h : Output.Prints body) :
    Uniform Output.Prints fun i => r.actions (body i) := by
  refine (r.drawing.theme.fill_uniform _ ?_).bind fun html prints => .ok prints
  exact .entry (.fragment h) .nil

theorem row_uniform (field : String) (row : Frame) {s : Index → FieldScope}
    (inRow : FieldScope.Prints s) {body : Index → Output} (h : Output.Prints body) :
    Uniform Output.Prints fun i => r.row (row.within (s i)) field (body i) := by
  refine (r.drawing.theme.fill_uniform _ ?_).bind fun html prints => .ok prints
  have identity : Template.Binds .leaf fun _ => .value (r.schema.identity row.record) := .value (.fixed _ _)
  exact .entry (.value (.text inRow.id)) (.entry (.fragment h) (.entry identity
    (.entry (.value (.text (inRow.elementName "id")))
      (.entry (.value (.text (inRow.elementName "_destroy"))) .nil))))

theorem templateRow_uniform (field : String) (row : Frame) {s : Index → FieldScope}
    (inRow : FieldScope.Prints s) {body : Index → Output} (h : Output.Prints body) :
    Uniform Output.Prints fun i => r.templateRow (row.within (s i)) field (body i) := by
  refine (r.drawing.theme.fill_uniform _ ?_).bind fun html prints => .ok prints
  exact .entry (.value (.text inRow.id)) (.entry (.fragment h) (.entry (.value (.fixed _ _)) .nil))

/-- The script of a block prints the id of the template, and with it the index. -/
theorem insertScript_prints {templateId : Index → String} (h : Formwright.Prints templateId)
    (sentinel : String) : Formwright.Prints fun i => Rows.insertScript (templateId i) sentinel :=
  (((((Prints.const _).append h).append (.const _)).append (.const _)).append (.const _))

theorem hasMany_uniform (f : Frame) (field : String) {s : Index → FieldScope}
    (inScope : FieldScope.Prints s) {rows : Index → List Output} {template : Index → Output}
    (rowsPrint : Each Output.Prints rows) (templatePrints : Output.Prints template) :
    Uniform Output.Prints fun i => r.hasMany (f.within (s i)) field (rows i) (template i) := by
  have templateId : Formwright.Prints fun i =>
      ((s i).nested field (Rows.sentinel field)).idPrefix ++ "_template" :=
    (inScope.nested field (Prints.const _)).id.append (.const _)
  refine (r.drawing.theme.fill_uniform _ ?_).bind fun html prints => .ok prints
  exact .entry (.value (.fixed _ _)) (.entry (.value (.fixed _ _))
    (.entry (.fragment (Output.lines_prints rowsPrint)) (.entry (.fragment templatePrints)
      (.entry (.value (.text templateId))
        (.entry (.value (.text (insertScript_prints templateId _))) .nil)))))

/-! ## The walk over a tree -/

theorem drawRows_uniform {draw : Index → Nat → Value → Except Fault Output}
    (each : ∀ n record, Uniform Output.Prints fun i => draw i n record) (n : Nat)
    (records : List Value) : Uniform (Each Output.Prints) fun i => drawRows (draw i) n records := by
  induction records generalizing n with
  | nil => exact .ok .nil
  | cons record rest ih =>
    refine (each n record).bind fun first prints => ?_
    exact (ih (n + 1)).bind fun others members => .ok (.cons prints members)

mutual

/-- **Nodes print.** A node is drawn alike for every index of the row it is in. -/
theorem node_uniform : ∀ (n : Node) (f : Frame) {s : Index → FieldScope},
    FieldScope.Prints s →
    Uniform Output.Prints fun i => r.node (r.input c) c (f.within (s i)) n
  | .input field o, f, _, h => r.input_uniform c f field o h
  | .fieldset label body o, f, _, h => by
    refine (nodes_uniform body f h).bind fun parts members => ?_
    exact fieldset_uniform label o (Output.lines_prints members)
  | .hasMany field rows _, f, s, h => by
    refine .bind_const (x := r.relation f field) fun rel _ => ?_
    -- the rows in this row have numbers of their own, so only their scopes print its index
    have rowsDrawn : Uniform (Each Output.Prints) fun i => drawRows (fun index record => do
        let row := rowFrame rel (f.within (s i)) field index record
        r.row row field (← r.rowForm (r.input c) c row (rows record))) 0 rel.records := by
      refine drawRows_uniform (fun index record => ?_) 0 rel.records
      have inRow := h.nested field (Prints.const (toString index))
      exact (rowForm_uniform (rows record) (rowFrame rel f field index record) inRow).bind
        fun body prints => row_uniform field (rowFrame rel f field index record) inRow prints
    have inTemplate := h.nested field (Prints.const (Rows.sentinel field))
    refine rowsDrawn.bind fun drawn rowsPrint => ?_
    refine (rowForm_uniform (rows .none) (templateFrame rel f field) inTemplate).bind
      fun body prints => ?_
    refine (templateRow_uniform field (templateFrame rel f field) inTemplate prints).bind
      fun template templatePrints => ?_
    exact hasMany_uniform f field h rowsPrint templatePrints
  | .actions body, f, _, h => by
    refine (nodes_uniform body f h).bind fun parts members => ?_
    exact actions_uniform (Output.lines_prints members)
  | .content _ _, _, _, _ => .ok (Prints.const _)
  | .script _, _, _, _ => .const fun _ _ => Prints.const _

theorem nodes_uniform : ∀ (ns : List Node) (f : Frame) {s : Index → FieldScope},
    FieldScope.Prints s →
    Uniform (Each Output.Prints) fun i => r.nodes (r.input c) c (f.within (s i)) ns
  | [], _, _, _ => .ok .nil
  | n :: rest, f, _, h => by
    refine (node_uniform n f h).bind fun first prints => ?_
    exact (nodes_uniform rest f h).bind fun others members => .ok (.cons prints members)

theorem rowForm_uniform : ∀ (form : RowForm) (f : Frame) {s : Index → FieldScope},
    FieldScope.Prints s →
    Uniform Output.Prints fun i => r.rowForm (r.input c) c (f.within (s i)) form
  | .nodes body, f, _, h => by
    exact (nodes_uniform body f h).bind fun parts members => .ok (Output.lines_prints members)
  | .fault fault, f, _, _ => .error (fault.ofForm f.model)

end

end Renderer

end Render

/-! ## The characters of a tree -/

/-- The characters of a piece as they are written. -/
def Piece.chars : Piece → List Char
  | .text s => s.toList.flatMap escapedChar
  | .markup s => s.toList

/-- The characters of an attribute, with the space before it. -/
def Attr.chars (a : Attr) : List Char :=
  ' ' :: (a.name.chars ++ '=' :: '"' :: (a.value.flatMap Piece.chars ++ ['"']))

namespace Html

mutual

/-- The characters of a tree. -/
def chars : Html → List Char
  | .piece p => p.chars
  | .element tag attrs body =>
    '<' :: (tag.toList ++ (attrs.flatMap Attr.chars ++ '>' ::
      (charsAll body ++ '<' :: '/' :: (tag.toList ++ ['>']))))
  | .void tag attrs => '<' :: (tag.toList ++ (attrs.flatMap Attr.chars ++ ['>']))

/-- The characters of trees in a row. -/
def charsAll : List Html → List Char
  | [] => []
  | h :: rest => h.chars ++ charsAll rest

end

theorem toList_piece (p : Piece) : p.write.toList = p.chars := by
  cases p with
  | text s => simp [Piece.write, Piece.chars, escape]
  | markup s => rfl

theorem toList_pieces (ps : List Piece) : (writePieces ps).toList = ps.flatMap Piece.chars := by
  induction ps with
  | nil => rfl
  | cons p ps ih => simp [writePieces, toList_piece, ih]

theorem toList_attrs (attrs : List Attr) : (writeAttrs attrs).toList = attrs.flatMap Attr.chars := by
  induction attrs with
  | nil => rfl
  | cons a attrs ih =>
    simp [writeAttrs, Attr.write, Attr.chars, toList_piece, toList_pieces, ih]

mutual

theorem toList_write : ∀ h : Html, h.write.toList = h.chars
  | .piece p => toList_piece p
  | .element tag attrs body => by
    simp [write, chars, toList_attrs, toList_writeAll body]
  | .void tag attrs => by simp [write, chars, toList_attrs]

theorem toList_writeAll : ∀ hs : List Html, (writeAll hs).toList = charsAll hs
  | [] => rfl
  | h :: rest => by
    rw [writeAll, charsAll, String.toList_append, toList_write h, toList_writeAll rest]

end

end Html

/-! ## Indices -/

/-- A number as an index. -/
def Index.ofNat (k : Nat) : Index where
  text := toString k
  nonempty := by simp
  word := by
    refine List.all_eq_true.mpr fun ch mem => ?_
    have digit : ch.isDigit = true := Text.isDigit_of_mem_numeral mem
    simp [isWordChar, Char.isAlphanum, digit]

theorem toNat_of_isWordChar {ch : Char} (h : isWordChar ch = true) : ch.toNat < 0x80 := by
  have below (last : Char) (within : ch.val ≤ last.val) (ascii : last.toNat < 0x80) :
      ch.toNat < 0x80 :=
    lt_of_le_of_lt (UInt32.le_iff_toNat_le.mp within) ascii
  simp only [isWordChar, Char.isAlphanum, Bool.or_eq_true, beq_iff_eq] at h
  obtain (letter | digit) | rfl := h
  · rcases Bool.or_eq_true_iff.mp letter with upper | lower
    · exact below 'Z' (of_decide_eq_true upper).2 (by decide)
    · exact below 'z' (of_decide_eq_true (Bool.and_eq_true_iff.mp lower).2) (by decide)
  · exact below '9' (of_decide_eq_true (Bool.and_eq_true_iff.mp digit).2) (by decide)
  · decide

theorem isWordChar_toUpper {ch : Char} (h : isWordChar ch = true) :
    isWordChar ch.toUpper = true := by
  have all : ∀ n < 0x80, isWordChar (Char.ofNat n) = true →
      isWordChar (Char.ofNat n).toUpper = true := by decide +kernel
  have upper := all ch.toNat (toNat_of_isWordChar h)
  rw [Char.ofNat_toNat] at upper
  exact upper h

theorem upper_word {name : String} (h : name.toList.all isWordChar = true) :
    (upper name).toList.all isWordChar = true := by
  rw [List.all_eq_true] at h ⊢
  intro ch mem
  rw [upper, String.toList_ofList] at mem
  obtain ⟨c, inName, mem⟩ := List.mem_flatMap.mp mem
  -- the upper-case form of an ASCII character is one character
  rw [upperChar, if_pos (toNat_of_isWordChar (h c inName)), List.mem_singleton] at mem
  rw [mem]
  exact isWordChar_toUpper (h c inName)

theorem sentinel_word {relation : String} (h : relation.toList.all isWordChar = true) :
    (Rows.sentinel relation).toList.all isWordChar = true := by
  have irregular : Words.irregularPlurals.all (fun e => e.1.toList.all fun ch =>
      isWordChar ch && isWordChar ch.toUpper) = true := by decide +kernel
  have singular := List.all_eq_true.mp (singularize_all irregular (by decide) h)
  have spaceless : ((Words.singularize relation).toList.map fun c =>
      if c == ' ' then '_' else c).all isWordChar = true := by
    rw [List.all_eq_true]
    intro ch mem
    obtain ⟨c, inName, rfl⟩ := List.mem_map.mp mem
    split
    · decide
    · exact singular c inName
  rw [← String.toList_ofList (l := List.map _ _)] at spaceless
  simp only [Rows.sentinel, String.toList_append, List.all_append, Bool.and_eq_true]
  exact ⟨⟨by decide, upper_word spaceless⟩, by decide⟩

/-- The sentinel of a relation as an index. -/
def Index.ofSentinel {relation : String} (h : relation.toList.all isWordChar = true) : Index where
  text := Rows.sentinel relation
  nonempty := by
    obtain ⟨rest, eq⟩ := Rows.sentinel_head relation
    simp [eq]
  word := sentinel_word h

/-! ## Rows without a record -/

namespace Render.Renderer

variable {r : Renderer} {c : Context} {f : Frame} {field : String}
  {rows : Value → RowForm}

/-- The frame of a row that has no record, under an index: nothing was submitted for it. -/
def blankFrame (rel : Relation) (f : Frame) (field index : String) : Frame :=
  (templateFrame rel f field).within (f.scope.nested field index)

/-- A row that has no record, under an index. -/
def blankRow (r : Renderer) (c : Context) (rel : Relation) (f : Frame) (field : String)
    (rows : Value → RowForm) (index : String) : Except Fault Output := do
  let row := blankFrame rel f field index
  r.row row field (← r.rowForm (r.input c) c row (rows .none))

/-- The names of the inputs of a row make no difference where there is no identity. -/
theorem unused_names (rowId name destroy : String) (body : List Html) : ∀ e ∈ Template.builtIn,
    ∀ escaping, Template.Node.fillAll [
        ("fieldset_id", .value (.text rowId)),
        ("body", .fragment body),
        ("identity", .value .none),
        ("identity_name", .value (.text name)),
        ("destroy_name", .value (.text destroy))] escaping e.2 =
      Template.Node.fillAll [
        ("fieldset_id", .value (.text rowId)),
        ("body", .fragment body),
        ("identity", .value .none)] escaping e.2 := by
  intro e mem escaping
  simp only [Template.builtIn, List.mem_cons, List.not_mem_nil, or_false] at mem
  rcases mem with rfl | rfl | rfl | rfl | rfl | rfl | rfl | rfl | rfl | rfl | rfl | rfl | rfl | rfl
  all_goals rfl

/-- A row without a record, which has no identity, is drawn no other way than a template. -/
theorem row_of_none {row : Frame} (blank : row.record = .none) (field : String) (body : Output) :
    r.row row field body = r.templateRow row field body := by
  have identity : r.schema.identity .none = .none := rfl
  have drawn := r.drawing.theme.fill_congr (unused_names row.scope.idPrefix
    (row.scope.elementName "id") (row.scope.elementName "_destroy") body.html)
    "form/has_many_fieldset.html"
  simp only [Renderer.row, templateRow, blank, identity, drawn]
  rfl

theorem blankRow_uniform (rel : Relation) :
    Uniform Output.Prints fun i => r.blankRow c rel f field rows i.text := by
  have inRow : FieldScope.Prints fun i => f.scope.nested field i.text :=
    (FieldScope.Prints.const f.scope).nested field .index
  refine (rowForm_uniform (rows .none) (templateFrame rel f field) inRow).bind
    fun body prints => ?_
  exact row_uniform field (templateFrame rel f field) inRow prints

/-- Every row without a record is the open text, closed with its index. -/
def IsRowText (r : Renderer) (c : Context) (rel : Relation) (f : Frame) (field : String)
    (rows : Value → RowForm) (t : OpenText) : Prop :=
  ∀ i : Index, ∃ row, r.blankRow c rel f field rows i.text = .ok row ∧
    writeAll row.html = t.close i

/-- If a row without a record can be drawn under one index, all of them are one open text. -/
theorem rowText_of_drawn {rel : Relation} {i : Index} {row : Output}
    (h : r.blankRow c rel f field rows i.text = .ok row) :
    ∃ t, ∀ u, r.IsRowText c rel f field rows u ↔ u = t := by
  obtain ⟨out, ⟨t, printed⟩, drawn, -⟩ := blankRow_uniform rel |>.exists_of_ok h
  have isText : r.IsRowText c rel f field rows t := fun j => ⟨out j, drawn j, printed j⟩
  refine ⟨t, fun u => ⟨fun isText' => OpenText.ext_close fun j => ?_, fun same => same ▸ isText⟩⟩
  obtain ⟨row, ended, written⟩ := isText j
  obtain ⟨row', ended', written'⟩ := isText' j
  cases ended.symm.trans ended'
  exact written'.symm.trans written

/-- **Cloning.** A block draws its template row as the row without a record under the sentinel. All
rows without a record are one open text, closed with their indices; and if in the template the
sentinel is found only where the index of the row was printed, replacing all its occurrences by a
number gives the row without a record under this number. -/
theorem hasMany_cloned (r : Renderer) (c : Context) (f : Frame) (field : String)
    (rows : Value → RowForm) (o : FieldOptions) (out : Output)
    (word : field.toList.all isWordChar = true)
    (h : r.node (r.input c) c f (.hasMany field rows o) = .ok out) :
    ∃ rel drawn template t,
      r.relation f field = .ok rel ∧ r.hasMany f field drawn template = .ok out ∧
      r.blankRow c rel f field rows (Rows.sentinel field) = .ok template ∧
      (∀ u, r.IsRowText c rel f field rows u ↔ u = t) ∧
      (t.Clear (.ofSentinel word) → ∀ k : Nat, ∃ row,
        r.blankRow c rel f field rows (toString k) = .ok row ∧
        replaceAll (Rows.sentinel field) (toString k) (writeAll template.html) =
          writeAll row.html) := by
  obtain ⟨rel, drawn, template, found, -, -, ⟨body, bodyDrawn, templateDrawn⟩, h⟩ := hasMany_inv h
  -- the template row is the row without a record under the sentinel
  have blank : r.blankRow c rel f field rows (Rows.sentinel field) = .ok template := by
    have frame : blankFrame rel f field (Rows.sentinel field) = templateFrame rel f field := rfl
    simp only [blankRow, frame, bodyDrawn, ok_bind]
    exact (row_of_none rfl field body).trans templateDrawn
  obtain ⟨t, isText⟩ := rowText_of_drawn (i := .ofSentinel word) blank
  refine ⟨rel, drawn, template, t, found, h, blank, isText, fun clear k => ?_⟩
  -- the template and the row under the number are the same text, closed with two indices
  obtain ⟨sentinelRow, ended, atSentinel⟩ := (isText t).mpr rfl (.ofSentinel word)
  obtain ⟨row, rowDrawn, atNumber⟩ := (isText t).mpr rfl (.ofNat k)
  cases blank.symm.trans ended
  refine ⟨row, rowDrawn, ?_⟩
  rw [atSentinel, atNumber]
  exact OpenText.replaceAll_close clear (.ofNat k)

/-- The numbers of the phones of a contact. -/
def phoneRows (_ : Value) : RowForm := .nodes [.input "number" .standard]

/-- The markup of a phone that has no record, as characters. -/
def phoneChars (index : String) : Except Fault (List Char) := do
  let rel ← addressBook.relation (.ofContext twoPhones) "phones"
  let row ← addressBook.blankRow twoPhones rel (.ofContext twoPhones) "phones" phoneRows index
  return charsAll row.html

theorem phones_word : "phones".toList.all isWordChar = true := by decide

/-- Nothing in a phone but its index looks like the sentinel. -/
theorem phone_clear {first second : List Char} (h : phoneChars "a" = .ok first)
    (h' : phoneChars "b" = .ok second) :
    (OpenText.align first second).Clear (.ofSentinel phones_word) := by
  have clear : ((phoneChars "a").bind fun first => (phoneChars "b").map fun second =>
      decide ((OpenText.align first second).Clear (.ofSentinel phones_word))).toOption =
      some true := by decide +kernel
  rw [h, h'] at clear
  exact of_decide_eq_true (Option.some.inj clear)

theorem hasMany_cloned_phones :
    "phones".toList.all isWordChar = true ∧
    (addressBook.node (addressBook.input twoPhones) twoPhones (.ofContext twoPhones)
      (.hasMany "phones" phoneRows .standard)).isOk = true ∧
    ∃ rel template row,
      addressBook.relation (.ofContext twoPhones) "phones" = .ok rel ∧
      addressBook.blankRow twoPhones rel (.ofContext twoPhones) "phones" phoneRows
        "NEW_PHONE_RECORD" = .ok template ∧
      addressBook.blankRow twoPhones rel (.ofContext twoPhones) "phones" phoneRows "3" = .ok row ∧
      replaceAll "NEW_PHONE_RECORD" "3" (writeAll template.html) = writeAll row.html := by
  have isOk : (addressBook.node (addressBook.input twoPhones) twoPhones (.ofContext twoPhones)
      (.hasMany "phones" phoneRows .standard)).isOk = true := by decide +kernel
  obtain ⟨out, drawn⟩ := exists_of_isOk isOk
  obtain ⟨rel, -, template, t, found, -, blank, isText, cloned⟩ :=
    hasMany_cloned addressBook twoPhones (.ofContext twoPhones) "phones" phoneRows .standard out
      phones_word drawn
  have sentinel : Rows.sentinel "phones" = "NEW_PHONE_RECORD" := by decide +kernel
  rw [sentinel] at blank cloned
  -- the open text is read off from the rows under two letters
  have markup : ∀ i : Index, phoneChars i.text = .ok (t.close i).toList := by
    intro i
    obtain ⟨row, rowDrawn, written⟩ := (isText t).mpr rfl i
    rw [← written, toList_writeAll]
    simp only [phoneChars, found, ok_bind, rowDrawn, pure_eq]
  have clear : t.Clear (.ofSentinel phones_word) := by
    rw [← OpenText.align_close t]
    exact phone_clear (markup OpenText.letterA) (markup OpenText.letterB)
  obtain ⟨row, rowDrawn, replaced⟩ := cloned clear 3
  exact ⟨phones_word, isOk, rel, template, row, found, blank, rowDrawn, replaced⟩

end Render.Renderer

end Formwright
