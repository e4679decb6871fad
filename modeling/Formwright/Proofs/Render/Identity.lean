import Formwright.Proofs.Render.Agreement
import Formwright.Proofs.Render.Reselection
import Formwright.Proofs.Render.Rows

/-!
# What identifies records

Records are identified by the own inputs of their rows, by the values of the choices they are
offered as, and where they are chosen already. In all these places it is the field of the schema
that identifies them. The field that a model declares for its records is not looked at, so it is
honoured only where it is that of the schema.

- `Schema.declaring`: the schema with other fields declared.
- `IdentifiedBy`: the places where related records are identified.
- `input_offers_members`, `input_offers_records`: what inputs offer.
- `records_identified`: the main result.
-/

namespace Formwright

open Html Outcome

/-! ## Declared fields -/

/-- The schema with a field declared to identify the records of every model. -/
def Schema.declaring (s : Schema) (declared : Model → String) : Schema :=
  { s with models := s.models.map fun m => { m with identityField := declared m } }

namespace Schema

variable {s : Schema} {declared : Model → String}

/-- Models are found as before, but for the fields they declare. -/
theorem declaring_model (name : String) :
    (s.declaring declared).model name =
      (s.model name).map fun m => { m with identityField := declared m } := by
  unfold model declaring
  have named : ((fun m : Model => m.name == name) ∘
      fun m : Model => { m with identityField := declared m }) = fun m => m.name == name := rfl
  rw [← List.map_reverse, List.find?_map, named]
  cases s.models.reverse.find? fun m => m.name == name <;> rfl

/-- What a schema says of fields and records does not depend on what its models declare. -/
theorem declaring_agree (s : Schema) (declared : Model → String) :
    (s.declaring declared).Agree s where
  fieldType := by
    intro name field
    rw [fieldType, fieldType, declaring_model]
    cases s.model name <;> rfl
  association? := by
    intro name field
    rw [association?, association?, declaring_model]
    cases s.model name <;> rfl
  identity := fun record => rfl

end Schema

namespace Render.Renderer

open Form Drawing

variable {r : Renderer} {c : Context} {f : Frame} {field : String} {o : FieldOptions}
  {out : Output}

/-! ## Where records are identified -/

/-- The records that a field relates are identified by what they have under a key. -/
structure IdentifiedBy (r : Renderer) (c : Context) (f : Frame) (field key : String) : Prop where
  /-- A row has inputs of its own for what identifies its record. -/
  rows : ∀ rows o out, r.node (r.input c) c f (.hasMany field rows o) = .ok out →
    ∃ (rel : Relation) (drawn : List Output) (template : List Html),
      r.relation f field = .ok rel ∧
      out.html = blockIn f field (joinLines (drawn.map (·.html))) template ∧
      drawn.length = rel.records.length ∧
      ∀ (i : Nat) (record : Value), rel.records[i]? = some record → ∃ body part,
        drawn[i]? = some part ∧
        r.rowForm (r.input c) c (rowFrame rel f field i record) (rows record) = .ok body ∧
        controlsAll part.html =
          controlsAll body.html ++ rowInputs (rowFrame rel f field i record) (record.field key)
  /-- Records on offer have what identifies them as values, after the prompt of a select. -/
  choices : ∀ o out items calls, o.collection.isSome = true →
    r.itemsOf o.collection c f.record = .ok (items, calls) → isLiteralCollection items = false →
    r.input c f field o = .ok out → ∃ prompt, (prompt = [] ∨ prompt = [""]) ∧
      (offeredAll out.html).map (·.value) =
        prompt ++ items.map fun record => (record.field key).toText
  /-- If nothing was submitted, exactly the related records are chosen. -/
  chosen : ∀ o out, r.picksMany f.model field o = true → f.submitted? (idsKey field) = none →
    r.input c f field o = .ok out → ∃ related, (f.record.field field).membersOrNone = .ok related ∧
      ∀ offer ∈ offeredAll out.html,
        offer.marked = (related.map fun record => (record.field key).toText).contains offer.value

/-- An input for any number of items offers them, and marks those that are selected. -/
theorem input_offers_members (standard : r.drawing.theme = .standard)
    (picks : r.picksMany f.model field o = true) (h : r.input c f field o = .ok out) :
    ∃ items calls selected texts, r.itemsOf o.collection c f.record = .ok (items, calls) ∧
      r.selectedIds f field = .ok selected ∧
      items.mapM (memberText (isLiteralCollection items) o r.schema.identity) = .ok texts ∧
      offeredAll out.html =
        texts.map fun t => (memberChoice (selected.map Value.toText) t).offer := by
  rw [input_many picks] at h
  obtain ⟨type, -, h⟩ := bind_eq_ok.mp h
  obtain ⟨⟨items, calls⟩, read, h⟩ := bind_eq_ok.mp h
  obtain ⟨shown, control, h⟩ := bind_eq_ok.mp h
  obtain ⟨html, item, h⟩ := bind_eq_ok.mp h
  cases h
  obtain ⟨desc, -, control⟩ := bind_eq_ok.mp control
  obtain ⟨selected, ids, control⟩ := bind_eq_ok.mp control
  obtain ⟨hs, drawn, control⟩ := bind_eq_ok.mp control
  cases control
  obtain ⟨texts, members, offered⟩ := many_offered standard drawn
  exact ⟨items, calls, selected, texts, read, ids, members,
    (item_offered standard item).trans offered⟩

/-- An input for one of several records offers them after its prompt. -/
theorem input_offers_records (standard : r.drawing.theme = .standard)
    (given : o.collection.isSome = true) (one : r.picksMany f.model field o = false)
    {items : List Value} {calls : List Invocation}
    (read : r.itemsOf o.collection c f.record = .ok (items, calls))
    (records : isLiteralCollection items = false) (h : r.input c f field o = .ok out) :
    ∃ desc, offeredAll out.html = (promptChoices o.prompt ++
      recordChoices desc items o r.schema.identity).map SelectOption.offer := by
  obtain ⟨type, -, h⟩ := bind_eq_ok.mp h
  obtain ⟨shown, drawn, h⟩ := bind_eq_ok.mp h
  obtain ⟨html, item, h⟩ := bind_eq_ok.mp h
  cases h
  simp only [control, association, if_pos given, read, ok_bind] at drawn
  obtain ⟨associated, chosen, drawn⟩ := bind_eq_ok.mp drawn
  cases drawn
  obtain ⟨assoc, found, chosen⟩ := bind_eq_ok.mp chosen
  have single : isMany assoc ≠ true := by
    rw [← Bool.eq_false_iff]
    rwa [picksMany, given, Bool.true_and, assoc?_of_ok found] at one
  rw [if_neg single] at chosen
  obtain ⟨control, selects, chosen⟩ := bind_eq_ok.mp chosen
  cases chosen
  obtain ⟨desc, -, selects⟩ := bind_eq_ok.mp selects
  rw [if_neg (ne_true_of_eq_false records)] at selects
  obtain ⟨hs, select, selects⟩ := bind_eq_ok.mp selects
  cases selects
  exact ⟨desc, (item_offered standard item).trans (select_offers standard select)⟩

theorem promptChoices_values (prompt : Option String) :
    (promptChoices prompt).map (·.value) = [] ∨ (promptChoices prompt).map (·.value) = [""] := by
  unfold promptChoices
  split
  · exact .inl rfl
  · split
    · exact .inl rfl
    · exact .inr rfl

/-- It is the schema's field that identifies records. -/
theorem identifiedBy_schema (standard : r.drawing.theme = .standard) :
    IdentifiedBy r c f field r.schema.identityField where
  rows := by
    intro rows o out h
    obtain ⟨rel, drawn, template, found, length, each, -, block⟩ := hasMany_inv h
    refine ⟨rel, drawn, template.html, found, hasMany_html standard block, length, ?_⟩
    intro i record at_i
    obtain ⟨body, part, at_i', bodyDrawn, rowDrawn⟩ := each i record at_i
    exact ⟨body, part, at_i', bodyDrawn, row_controls standard rowDrawn⟩
  choices := by
    intro o out items calls given read records h
    cases picks : r.picksMany f.model field o with
    | true =>
      obtain ⟨items', calls', selected, texts, read', -, members, offered⟩ :=
        input_offers_members standard picks h
      obtain ⟨rfl, rfl⟩ := Prod.mk.inj (Except.ok.inj (read.symm.trans read'))
      have all : items.mapM (memberText false o r.schema.identity) = .ok (items.map fun record =>
          ((r.schema.identity record).toText, itemLabel record o.fields)) := List.mapM_pure
      rw [records, all] at members
      cases members
      refine ⟨[], .inl rfl, ?_⟩
      rw [offered, List.map_map, List.map_map]
      rfl
    | false =>
      obtain ⟨desc, offered⟩ := input_offers_records standard given picks read records h
      refine ⟨_, promptChoices_values o.prompt, ?_⟩
      rw [offered, List.map_map, List.map_append, recordChoices, List.map_map]
      rfl
  chosen := by
    intro o out picks unsubmitted h
    obtain ⟨items, calls, selected, texts, -, ids, -, offered⟩ :=
      input_offers_members standard picks h
    rw [selectedIds, unsubmitted] at ids
    obtain ⟨related, read, rfl⟩ := exceptMap_eq_ok.mp ids
    refine ⟨related, read, fun offer mem => ?_⟩
    rw [offered] at mem
    obtain ⟨text, -, rfl⟩ := List.mem_map.mp mem
    rw [List.map_map]
    rfl

/-- **Records are identified by the schema's field.** It is what rows, choices and what is chosen
are identified by. So it is the field that the related model declares, if that is the same one;
otherwise what is declared does not matter: every form is drawn as if anything else were. -/
theorem records_identified (r : Renderer) (standard : r.drawing.theme = .standard) (c : Context)
    (f : Frame) (field : String) :
    IdentifiedBy r c f field r.schema.identityField ∧
    (∀ a model, r.schema.association? f.model field = .ok (some a) →
      r.schema.model a.relatedModel = .ok model →
      model.identityField = r.schema.identityField → IdentifiedBy r c f field model.identityField) ∧
    ∀ declared tree c',
      ({ r with schema := r.schema.declaring declared } : Renderer).form tree c' =
        r.form tree c' := by
  have identified : IdentifiedBy r c f field r.schema.identityField :=
    identifiedBy_schema standard
  refine ⟨identified, fun a model _ _ same => same ▸ identified, fun declared tree c' => ?_⟩
  have agree : Agree { r with schema := r.schema.declaring declared } r :=
    ⟨r.schema.declaring_agree declared, .refl r.drawing, rfl⟩
  exact agree.form tree c'

/-- Contacts and phones that are identified by their `uuid`. -/
def registry : Renderer := { addressBook with schema :=
  { addressBook.schema.declaring fun _ => "uuid" with identityField := "uuid" } }

/-- A contact with a phone that has a `uuid` and no `id`. -/
def registered : Context := { twoPhones with
  record := .table [(.text "phones", .list [
    .table [(.text "uuid", .int 7), (.text "number", .text "1")]])] }

/-- The values of the inputs of a name. -/
def valuesNamed (name : String) (hs : List Html) : List (Option String) :=
  (inputsNamed name hs).map fun x => attr? "value" x.attrs

theorem records_identified_registry :
    ∃ a model out, registry.schema.association? "contact" "phones" = .ok (some a) ∧
      registry.schema.model a.relatedModel = .ok model ∧ model.identityField = "uuid" ∧
      IdentifiedBy registry registered (.ofContext registered) "phones" "uuid" ∧
      registry.form contactForm registered = .ok out ∧
      valuesNamed "contact[phones_attributes][0][id]" out.html = [some "7"] := by
  obtain ⟨-, declared, -⟩ :=
    records_identified registry rfl registered (.ofContext registered) "phones"
  have identified := declared _ _ rfl rfl rfl
  obtain ⟨out, drawn⟩ : ∃ out, registry.form contactForm registered = .ok out :=
    exists_of_isOk (by decide +kernel)
  have seven : (registry.form contactForm registered).toOption.map (fun out =>
      valuesNamed "contact[phones_attributes][0][id]" out.html) = some [some "7"] := by
    decide +kernel
  rw [drawn] at seven
  exact ⟨_, _, out, rfl, rfl, rfl, identified, drawn, Option.some.inj seven⟩

theorem uuid_ignored :
    let declaring : Renderer := { addressBook with
      schema := addressBook.schema.declaring fun m => if m.name == "phone" then "uuid" else "id" }
    (declaring.schema.model "phone").map (·.identityField) = .ok "uuid" ∧
    ∃ out, declaring.form contactForm registered = .ok out ∧
      valuesNamed "contact[phones_attributes][0][id]" out.html = [] := by
  intro declaring
  obtain ⟨out, drawn⟩ : ∃ out, declaring.form contactForm registered = .ok out :=
    exists_of_isOk (by decide +kernel)
  have unidentified : (declaring.form contactForm registered).toOption.map (fun out =>
      valuesNamed "contact[phones_attributes][0][id]" out.html) = some [] := by decide +kernel
  rw [drawn] at unidentified
  exact ⟨rfl, out, drawn, Option.some.inj unidentified⟩

end Render.Renderer

end Formwright
