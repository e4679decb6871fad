import Formwright.Proofs.Render.Refresh

/-!
# Refreshing a control in a row

A control in a row of a relation is refreshed by the number of its row. The rows of a form find what
was submitted for them under the numeral of their index, under the index as a number, or at its place
in a list; a refresh looks under the numeral alone. Where that is how the row was submitted, the
refreshed control is the one in the row. Otherwise it is the control of a row for which nothing was
submitted, and the choice that was made is lost.

- `IsKeyed`: the row is submitted under its numeral.
- `Renderer.refresh_row`: a refreshed control beside the one in the row.
- `Renderer.listed_row_lost`: a row of a list whose choice is lost.
-/

namespace Formwright.Render

open Form Html Outcome

/-- What was submitted for rows is a table that has the numeral of an index. -/
def IsKeyed (submitted : Value) (index : Nat) : Prop :=
  ∃ rows, submitted = .table rows ∧ (Value.named? rows (toString index)).isSome = true

namespace Renderer

variable {r : Renderer} {c : Context} {f f' : Frame} {field relation : String} {o : FieldOptions}
  {items : List Value} {rel : Relation}

/-! ## What a refresh finds -/

/-- A refresh finds what the row finds, where that is under a numeral. -/
theorem submittedRow_keyed (found : r.relation (.ofContext c) relation = .ok rel) {index : Nat}
    (keyed : IsKeyed rel.submitted index) :
    submittedRow c ⟨relation, toString index⟩ = Rows.values rel.submitted index := by
  obtain ⟨-, -, submitted⟩ := relation_inv found
  obtain ⟨rows, isTable, numeral⟩ := keyed
  obtain ⟨row, at_index⟩ := Option.isSome_iff_exists.mp numeral
  have given : Value.named? c.modelParams (FieldScope.rowsKey relation) = some (.table rows) := by
    rw [isTable] at submitted
    change _ = Value.ofOption (Value.named? c.modelParams (FieldScope.rowsKey relation))
      at submitted
    cases entry : Value.named? c.modelParams (FieldScope.rowsKey relation) with
    | none => rw [entry] at submitted; cases submitted
    | some v => rw [entry] at submitted; exact congrArg some submitted.symm
  have inRow : Value.named? rows (toString (index : Int)) = some row := at_index
  simp only [submittedRow, given, at_index, isTable, Rows.values, Rows.submittedAt, inRow]
  rfl

/-- A refresh finds nothing elsewhere. -/
theorem submittedRow_unkeyed (found : r.relation (.ofContext c) relation = .ok rel) {index : Nat}
    (unkeyed : ¬IsKeyed rel.submitted index) :
    submittedRow c ⟨relation, toString index⟩ = none := by
  obtain ⟨-, -, submitted⟩ := relation_inv found
  change _ = Value.ofOption (Value.named? c.modelParams (FieldScope.rowsKey relation)) at submitted
  unfold submittedRow
  split
  · rename_i rows given
    rw [given] at submitted
    -- the rows are a table here, so that it is the numeral that is missing
    have absent : Value.named? rows (toString index) = none := by
      by_contra present
      exact unkeyed ⟨rows, submitted, Option.isSome_iff_ne_none.mpr present⟩
    show Value.named? rows (toString index) >>= Value.table? = none
    rw [absent]
    rfl
  · rfl

/-- The frame of a refreshed row is that of the row, without a record and with what the refresh
finds of the submitted values. -/
theorem refreshFrame_row (found : r.relation (.ofContext c) relation = .ok rel) (index : Nat)
    (record : Value) :
    r.refreshFrame c (some ⟨relation, toString index⟩) =
      .ok { rowFrame rel (.ofContext c) relation index record with
        record := .none, values := submittedRow c ⟨relation, toString index⟩ } := by
  obtain ⟨⟨assoc, isAssoc, related⟩, -, -⟩ := relation_inv found
  have isAssoc : r.schema.association? c.modelName relation = .ok (some assoc) := isAssoc
  simp only [refreshFrame, isAssoc, ok_bind, Option.elim_some, rowFrame, related]
  rfl

/-! ## The control -/

/-- A single choice whose value was submitted does not depend on the record. -/
theorem refreshIn_congr (record : Value) (one : isMany (r.assoc? f.model field) = false)
    (given : (f.submitted? (Schema.keyOf (r.assoc? f.model field) field)).isSome = true) :
    r.refreshIn c { f with record := record } field items o = r.refreshIn c f field items o := by
  obtain ⟨v, submitted⟩ := Option.isSome_iff_exists.mp given
  rw [refreshIn_from, refreshIn_from, controlFrom, controlFrom]
  cases found : r.schema.association? f.model field with
  | error e => rfl
  | ok assoc =>
    rw [assoc?_of_ok found] at one submitted
    -- a description reads the record for the value alone, and the submitted value is taken first
    have value : ∀ record,
        Frame.value { f with record := record } (Schema.keyOf assoc field) = v := by
      intro record
      rw [Frame.value, show Frame.submitted? { f with record := record } _ = some v from submitted]
      rfl
    have described : r.describe c { f with record := record } field (Schema.keyOf assoc field) o =
        r.describe c f field (Schema.keyOf assoc field) o := by
      unfold describe
      rw [value record, show f.value (Schema.keyOf assoc field) = v from value f.record]
      rfl
    have single : r.singleControl c { f with record := record } field o items
        (Schema.keyOf assoc field) =
        r.singleControl c f field o items (Schema.keyOf assoc field) := by
      rw [singleControl, singleControl, described]
    simp only [ok_bind, one, Bool.false_eq_true, if_false, single]

/-- **A refreshed row.** Whatever record a row is for: where it is submitted under its numeral, and
with the key of a single choice, the refreshed control is the one in the row, around which the row
has its item. Where it is submitted otherwise, the refreshed control is that of a row without a
record and without submitted values. -/
theorem refresh_row (r : Renderer) (standard : r.drawing.theme = .standard) (c : Context)
    (relation : String) (rel : Relation) (found : r.relation (.ofContext c) relation = .ok rel)
    (index : Nat) (record : Value) (field : String)
    (one : isMany (r.assoc? rel.related field) = false) (o : FieldOptions) (items : List Value)
    (row : List (Value × Value)) (submitted : Rows.values rel.submitted index = some row)
    (given : (Value.named? row (Schema.keyOf (r.assoc? rel.related field) field)).isSome = true) :
    (IsKeyed rel.submitted index →
      r.refresh c field items (some ⟨relation, toString index⟩) o =
          r.refreshIn c (rowFrame rel (.ofContext c) relation index record) field items o ∧
        ∀ out, r.input c (rowFrame rel (.ofContext c) relation index record) field
            (choosing o (.literal items)) = .ok out →
          ∃ body item, r.refresh c field items (some ⟨relation, toString index⟩) o = .ok body ∧
            out.html = [item] ∧
            IsItem (c.modelName ++ "_" ++ FieldScope.rowsKey relation ++ "_" ++ toString index ++
              "_" ++ field) o.ajax body item) ∧
      (¬IsKeyed rel.submitted index →
        r.refresh c field items (some ⟨relation, toString index⟩) o =
          r.refreshIn c { rowFrame rel (.ofContext c) relation index record with
            record := .none, values := none } field items o) := by
  have refreshed : r.refresh c field items (some ⟨relation, toString index⟩) o =
      r.refreshIn c { rowFrame rel (.ofContext c) relation index record with
        record := .none, values := submittedRow c ⟨relation, toString index⟩ } field items o := by
    rw [refresh, refreshFrame_row found index record, ok_bind]
  refine ⟨fun keyed => ?_, fun unkeyed => ?_⟩
  · rw [submittedRow_keyed found keyed] at refreshed
    have same : r.refresh c field items (some ⟨relation, toString index⟩) o =
        r.refreshIn c (rowFrame rel (.ofContext c) relation index record) field items o := by
      have values : (rowFrame rel (.ofContext c) relation index record).values = some row :=
        submitted
      refine refreshed.trans (refreshIn_congr .none one ?_)
      rw [Frame.submitted?, values]
      exact given
    refine ⟨same, fun out drawn => ?_⟩
    obtain ⟨type, typed, -⟩ := bind_eq_ok.mp drawn
    obtain ⟨body, again, item, html, isItem⟩ :=
      (input_refreshed standard typed (offers_literal r c record items)).exists_of_ok drawn
    exact ⟨body, item, same.trans again, html, isItem⟩
  · rw [refreshed, submittedRow_unkeyed found unkeyed]

/-! ## Numbers of phones -/

/-- A number that is one of two. -/
def eitherNumber : List Value := [.text "1", .text "2"]

/-- The numbers of a contact's phones are chosen. -/
def numbersForm : Tree := ⟨"contact", [
  .hasMany "phones"
    (fun _ => .nodes [.input "number" (choosing .standard (.literal eitherNumber))]) .standard]⟩

/-- A contact with a phone, whose number is submitted with its row. -/
def submittedPhone (rows : Value) : Context where
  record := .table [(.text "phones", .list [.table [(.text "id", .int 7)]])]
  modelName := "contact"
  params := [("contact", .table [(.text "phones_attributes", rows)])]
  errors := none
  required := []
  today := .first
  mode := .edit
  csrfToken := none

/-- The row of the phone. -/
def phoneRow : Value := .table [(.text "number", .text "2")]

theorem refresh_row_submittedPhone :
    ∃ rel body, addressBook.relation (.ofContext (submittedPhone (.table [(.text "0", phoneRow)])))
        "phones" = .ok rel ∧
      addressBook.refresh (submittedPhone (.table [(.text "0", phoneRow)])) "number" eitherNumber
        (some ⟨"phones", "0"⟩) .standard = .ok body ∧
      addressBook.refreshIn (submittedPhone (.table [(.text "0", phoneRow)]))
        (rowFrame rel (.ofContext (submittedPhone (.table [(.text "0", phoneRow)]))) "phones" 0
          (.table [(.text "id", .int 7)])) "number" eitherNumber .standard = .ok body := by
  obtain ⟨body, again⟩ : ∃ body, addressBook.refresh
      (submittedPhone (.table [(.text "0", phoneRow)])) "number" eitherNumber
      (some ⟨"phones", "0"⟩) .standard = .ok body := exists_of_isOk (by decide +kernel)
  refine ⟨_, body, rfl, again, ?_⟩
  obtain ⟨same, -⟩ := (refresh_row addressBook rfl (submittedPhone (.table [(.text "0", phoneRow)]))
    "phones" _ rfl 0 (.table [(.text "id", .int 7)]) "number" (by decide) .standard eitherNumber
    [(.text "number", .text "2")] rfl (by decide)).1 ⟨_, rfl, by decide⟩
  exact same.symm.trans again

/-- The controls by name, with the values of their selected options. -/
def selections (hs : List Html) : List (Option String × List String) :=
  (controlsAll hs).map fun x => (x.name?, (elementsAll [x]).filterMap fun choice =>
    if (attr? "selected" choice.attrs).isSome then attr? "value" choice.attrs else none)

/-- Submitted in a list, the row shows its choice, and the refreshed control has lost it. -/
theorem listed_row_lost :
    ∃ out body, addressBook.form numbersForm (submittedPhone (.list [phoneRow])) = .ok out ∧
      addressBook.refresh (submittedPhone (.list [phoneRow])) "number" eitherNumber
        (some ⟨"phones", "0"⟩) .standard = .ok body ∧
      (some "contact[phones_attributes][0][number]", ["2"]) ∈ selections out.html ∧
      selections body = [(some "contact[phones_attributes][0][number]", [])] := by
  obtain ⟨out, drawn⟩ : ∃ out,
      addressBook.form numbersForm (submittedPhone (.list [phoneRow])) = .ok out :=
    exists_of_isOk (by decide +kernel)
  obtain ⟨body, again⟩ : ∃ body, addressBook.refresh (submittedPhone (.list [phoneRow])) "number"
      eitherNumber (some ⟨"phones", "0"⟩) .standard = .ok body :=
    exists_of_isOk (by decide +kernel)
  have inForm : ((addressBook.form numbersForm
      (submittedPhone (.list [phoneRow]))).toOption.any fun out =>
        (some "contact[phones_attributes][0][number]", ["2"]) ∈ selections out.html) = true := by
    decide +kernel
  have alone : ((addressBook.refresh (submittedPhone (.list [phoneRow])) "number" eitherNumber
      (some ⟨"phones", "0"⟩) .standard).toOption.any fun body =>
        selections body = [(some "contact[phones_attributes][0][number]", [])]) = true := by
    decide +kernel
  rw [drawn] at inForm
  rw [again] at alone
  exact ⟨out, body, drawn, again, of_decide_eq_true inForm, of_decide_eq_true alone⟩

end Renderer

end Formwright.Render
