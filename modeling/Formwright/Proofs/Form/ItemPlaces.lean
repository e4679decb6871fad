import Formwright.Form.Items
import Formwright.Proofs.Value.Named

/-!
# Places in an item list

An item list is searched from the first item to the last, and the items in an item before those
after it. The way to an item is kept as a text; here it is kept as a place, so that it can be said
what is reached and which of two places comes first. Items stand under `items` in three kinds of
items, and what other kinds have there is never looked at.

- `Leads`, `Malformed`: what is reached in an item list, and what is wrong with it.
- `Before`, `IsFirst`: the order of places.
- `Part.walk`, `mem_walk`: the places that are reached, each before those in it.
- `walkList_sorted`: they are listed in order.
- `Sorted.first_iff`: what is found first in a list of places.
-/

namespace Formwright.Form.Items

/-! ## Kinds of items -/

/-- A kind of items. -/
structure ItemKind where
  name : String
  /-- The field with its text. -/
  textField : Option String
  /-- Options that its declaration has for itself, if it takes any options. -/
  taken : Option (List String)
  /-- Items may stand in it. -/
  holdsItems : Bool

/-- All kinds that are known. -/
def itemKinds : List ItemKind := [
  ⟨"input", some "field", some ["field_name"], false⟩,
  ⟨"inputs", some "label", some ["label", "body"], true⟩,
  ⟨"collection_inputs", some "field", some ["field_name"], false⟩,
  ⟨"has_many", some "field", some ["field_name", "builder"], true⟩,
  ⟨"actions", none, none, true⟩,
  ⟨"content", some "content", none, false⟩,
  ⟨"text", some "content", none, false⟩,
  ⟨"javascript", some "script", none, false⟩]

/-- The kind that a value names. -/
def itemKind? (v : Value) : Option ItemKind := itemKinds.find? fun kind => v.isText kind.name

/-- The table is of a kind in which items may stand. -/
def holdsItems (entries : List (Value × Value)) : Bool :=
  ((Value.named? entries "kind").bind itemKind?).any (·.holdsItems)

/-- What stands in place of the items of an item. Nothing under `items` is the same as no entry. -/
def itemsIn (entries : List (Value × Value)) : Option Value :=
  if holdsItems entries then (Value.named? entries "items").filter (!·.isNone) else none

theorem string?_of_itemKind {v : Value} {kind : ItemKind} (h : itemKind? v = some kind) :
    kind ∈ itemKinds ∧ v.string? = some kind.name := by
  have named : v.isText kind.name = true := by simpa using List.find?_some h
  exact ⟨List.mem_of_find?_eq_some h, beq_iff_eq.mp named⟩

theorem itemKind?_eq {v : Value} {name : String} (h : v.isText name = true) :
    itemKind? v = itemKinds.find? fun kind => name == kind.name := by
  have string : v.string? = some name := beq_iff_eq.mp h
  simp [itemKind?, Value.isText, string]

theorem holdsItems_eq {entries : List (Value × Value)} {v : Value}
    (named : Value.named? entries "kind" = some v) :
    holdsItems entries = (itemKind? v).any (·.holdsItems) := by
  rw [holdsItems, named, Option.bind_some]

/-! ## Places -/

/-- A step to an item of a list, or to the items of an item. -/
inductive PlaceStep where
  | item (index : Nat)
  | items
  deriving DecidableEq, Repr

/-- The way to an item is extended by a step. -/
def PlaceStep.extend (path : String) : PlaceStep → String
  | .item index => itemPath path index
  | .items => itemsPath path

/-- A place in an item list. -/
abbrev Place := List PlaceStep

/-- The way to a place, as it is reported. -/
def Place.text (path : String) (place : Place) : String := place.foldl PlaceStep.extend path

/-- What stands in a place: something for an item list, or something for an item. -/
inductive Part where
  | list (v : Value)
  | item (v : Value)

/-- What is wrong with a table, apart from the types of its fields. -/
def tableCause? (entries : List (Value × Value)) : Option ItemCause :=
  match Value.named? entries "kind" with
  | none => some .noKind
  | some v =>
    match itemKind? v with
    | none => some (.unknownKind v.toText)
    | some _ => none

/-- What is wrong with a part, apart from what is in it. -/
def Part.cause? : Part → Option ItemCause
  | .list (.list _) => none
  | .list _ => some .notList
  | .item (.table entries) => tableCause? entries
  | .item _ => some .noKind

/-- From a part a place leads to another. -/
inductive Leads : Part → Place → Part → Prop where
  | here (part : Part) : Leads part [] part
  | item {items : List Value} {index : Nat} {v : Value} {place : Place} {part : Part}
      (stands : items[index]? = some v) (leads : Leads (.item v) place part) :
      Leads (.list (.list items)) (.item index :: place) part
  | items {entries : List (Value × Value)} {v : Value} {place : Place} {part : Part}
      (stands : itemsIn entries = some v) (leads : Leads (.list v) place part) :
      Leads (.item (.table entries)) (.items :: place) part

/-- Something is wrong in a place of an item list. -/
def Malformed (v : Value) (place : Place) (cause : ItemCause) : Prop :=
  ∃ part, Leads (.list v) place part ∧ part.cause? = some cause

/-- Of two items of a list, the one with the smaller index. -/
inductive Earlier : PlaceStep → PlaceStep → Prop where
  | item {index index' : Nat} (lt : index < index') : Earlier (.item index) (.item index')

/-- The order of a search in depth: a place comes before the places in it, and all of these before
those in a later item. -/
def Before : Place → Place → Prop := List.Lex Earlier

theorem Earlier.irrefl (step : PlaceStep) : ¬ Earlier step step := by
  rintro ⟨lt⟩
  exact Nat.lt_irrefl _ lt

theorem Earlier.asymm {step step' : PlaceStep} (h : Earlier step step') : ¬ Earlier step' step := by
  cases h with
  | item lt =>
    rintro ⟨lt'⟩
    exact Nat.lt_asymm lt lt'

theorem Before.irrefl (place : Place) : ¬ Before place place :=
  List.lex_irrefl Earlier.irrefl place

theorem Before.asymm {place place' : Place} (h : Before place place') : ¬ Before place' place :=
  List.lex_asymm Earlier.asymm h

/-- The first place of an item list in which something is wrong. -/
def IsFirst (v : Value) (place : Place) (cause : ItemCause) : Prop :=
  Malformed v place cause ∧
    ∀ other cause', Malformed v other cause' → other = place ∨ Before place other

/-! ## All places -/

/-- A place, seen from one step further out. -/
def under (step : PlaceStep) (x : Place × Part) : Place × Part := (step :: x.1, x.2)

mutual

/-- All places of an item list with what stands there. -/
def walkList : Value → List (Place × Part)
  | .list items => ([], .list (.list items)) :: walkFrom 0 items
  | v => [([], .list v)]

/-- All places of the items of a list, from an index on. -/
def walkFrom (index : Nat) : List Value → List (Place × Part)
  | [] => []
  | v :: rest => (walkItem v).map (under (.item index)) ++ walkFrom (index + 1) rest

/-- All places of one item. -/
def walkItem : Value → List (Place × Part)
  | .table entries =>
    ([], .item (.table entries)) :: if holdsItems entries then walkItems entries else []
  | v => [([], .item v)]

/-- All places of the items in an item. -/
def walkItems : List (Value × Value) → List (Place × Part)
  | [] => []
  | (key, v) :: rest =>
    if key.isText "items" then if v.isNone then [] else (walkList v).map (under .items)
    else walkItems rest

end

/-- All places of a part, each before those in it. -/
def Part.walk : Part → List (Place × Part)
  | .list v => walkList v
  | .item v => walkItem v

theorem mem_walkFrom {items : List Value} {index : Nat} {x : Place × Part} :
    x ∈ walkFrom index items ↔
      ∃ n v, items[n]? = some v ∧ ∃ y ∈ walkItem v, under (.item (index + n)) y = x := by
  induction items generalizing index with
  | nil => simp [walkFrom]
  | cons v rest ih =>
    rw [walkFrom, List.mem_append, List.mem_map, ih]
    constructor
    · rintro (⟨y, mem, rfl⟩ | ⟨n, v', stands, y, mem, rfl⟩)
      · exact ⟨0, v, rfl, y, mem, rfl⟩
      · refine ⟨n + 1, v', stands, y, mem, ?_⟩
        rw [Nat.add_right_comm, Nat.add_assoc]
    · rintro ⟨n, v', stands, y, mem, rfl⟩
      cases n with
      | zero =>
        cases stands
        exact .inl ⟨y, mem, rfl⟩
      | succ n =>
        refine .inr ⟨n, v', stands, y, mem, ?_⟩
        rw [Nat.add_right_comm, Nat.add_assoc]

theorem walkItems_eq (entries : List (Value × Value)) :
    walkItems entries = ((Value.named? entries "items").filter (!·.isNone)).elim []
      fun v => (walkList v).map (under .items) := by
  induction entries with
  | nil => rw [walkItems]; rfl
  | cons e rest ih =>
    obtain ⟨key, v⟩ := e
    rw [walkItems, Value.named?_cons]
    cases key.isText "items" with
    | false => exact ih
    | true =>
      cases absent : v.isNone with
      | true => simp [Option.filter, absent]
      | false => simp [Option.filter, absent]

theorem walkItem_table (entries : List (Value × Value)) :
    walkItem (.table entries) = ([], .item (.table entries)) ::
      (itemsIn entries).elim [] fun v => (walkList v).map (under .items) := by
  rw [walkItem, walkItems_eq, itemsIn]
  cases holdsItems entries <;> rfl

theorem walkList_other {v : Value} (other : ∀ items, v ≠ .list items) :
    walkList v = [([], .list v)] := by
  cases v with
  | list items => exact absurd rfl (other items)
  | _ => rw [walkList]; nofun

theorem walkItem_other {v : Value} (other : ∀ entries, v ≠ .table entries) :
    walkItem v = [([], .item v)] := by
  cases v with
  | table entries => exact absurd rfl (other entries)
  | _ => rw [walkItem]; nofun

theorem walkFrom_further {index : Nat} {items : List Value} :
    ∀ x ∈ walkFrom index items, x.1 ≠ [] := by
  intro x mem
  obtain ⟨n, v, -, y, -, rfl⟩ := mem_walkFrom.mp mem
  exact List.cons_ne_nil _ _

theorem walkItems_further {entries : List (Value × Value)} :
    ∀ x ∈ walkItems entries, x.1 ≠ [] := by
  intro x mem
  rw [walkItems_eq] at mem
  cases stands : (Value.named? entries "items").filter (!·.isNone) with
  | none =>
    rw [stands] at mem
    cases mem
  | some v =>
    rw [stands] at mem
    obtain ⟨y, -, rfl⟩ := List.mem_map.mp mem
    exact List.cons_ne_nil _ _

/-- A part comes first, and all other places are further in. -/
theorem walk_eq (part : Part) :
    ∃ inner, part.walk = ([], part) :: inner ∧ ∀ x ∈ inner, x.1 ≠ [] := by
  rcases part with v | v
  · by_cases list : ∃ items, v = .list items
    · obtain ⟨items, rfl⟩ := list
      exact ⟨walkFrom 0 items, by rw [Part.walk, walkList], walkFrom_further⟩
    · refine ⟨[], walkList_other fun items same => list ⟨items, same⟩, ?_⟩
      rintro x ⟨⟩
  · by_cases table : ∃ entries, v = .table entries
    · obtain ⟨entries, rfl⟩ := table
      refine ⟨_, by rw [Part.walk, walkItem], ?_⟩
      split
      · exact walkItems_further
      · rintro x ⟨⟩
    · refine ⟨[], walkItem_other fun entries same => table ⟨entries, same⟩, ?_⟩
      rintro x ⟨⟩

theorem nil_mem_walk {part part' : Part} : ([], part') ∈ part.walk ↔ part' = part := by
  obtain ⟨inner, walked, further⟩ := walk_eq part
  rw [walked, List.mem_cons, Prod.mk.injEq, and_iff_right rfl]
  exact or_iff_left fun mem => further _ mem rfl

section

variable {v : Value} {step : PlaceStep} {place : Place} {part : Part}

theorem mem_walkList_cons : (step :: place, part) ∈ walkList v ↔
    ∃ items n w, v = .list items ∧ step = .item n ∧ items[n]? = some w ∧
      (place, part) ∈ walkItem w := by
  by_cases list : ∃ items, v = .list items
  · obtain ⟨items, rfl⟩ := list
    rw [walkList, List.mem_cons, or_iff_right (by simp), mem_walkFrom]
    constructor
    · rintro ⟨n, w, stands, ⟨_, _⟩, mem, same⟩
      rw [Nat.zero_add] at same
      cases same
      exact ⟨items, n, w, rfl, rfl, stands, mem⟩
    · rintro ⟨_, n, w, ⟨⟩, rfl, stands, mem⟩
      refine ⟨n, w, stands, _, mem, ?_⟩
      rw [Nat.zero_add]
      rfl
  · rw [walkList_other fun items same => list ⟨items, same⟩]
    constructor
    · intro mem
      cases List.mem_singleton.mp mem
    · rintro ⟨items, n, w, rfl, -⟩
      exact absurd ⟨items, rfl⟩ list

theorem mem_walkItem_cons : (step :: place, part) ∈ walkItem v ↔
    ∃ entries w, v = .table entries ∧ step = .items ∧ itemsIn entries = some w ∧
      (place, part) ∈ walkList w := by
  by_cases table : ∃ entries, v = .table entries
  · obtain ⟨entries, rfl⟩ := table
    rw [walkItem_table, List.mem_cons, or_iff_right (by simp)]
    constructor
    · intro mem
      cases stands : itemsIn entries with
      | none =>
        rw [stands] at mem
        cases mem
      | some w =>
        rw [stands] at mem
        obtain ⟨⟨_, _⟩, within, same⟩ := List.mem_map.mp mem
        cases same
        exact ⟨entries, w, rfl, rfl, stands, within⟩
    · rintro ⟨_, w, ⟨⟩, rfl, stands, mem⟩
      rw [stands]
      exact List.mem_map.mpr ⟨_, mem, rfl⟩
  · rw [walkItem_other fun entries same => table ⟨entries, same⟩]
    constructor
    · intro mem
      cases List.mem_singleton.mp mem
    · rintro ⟨entries, w, rfl, -⟩
      exact absurd ⟨entries, rfl⟩ table

end

/-- The places that are listed are those that are reached. -/
theorem mem_walk {part part' : Part} {place : Place} :
    (place, part') ∈ part.walk ↔ Leads part place part' := by
  induction place generalizing part with
  | nil =>
    rw [nil_mem_walk]
    constructor
    · rintro rfl
      exact .here part'
    · rintro ⟨⟩
      rfl
  | cons step place ih =>
    rcases part with v | v
    · rw [Part.walk, mem_walkList_cons]
      constructor
      · rintro ⟨items, n, w, rfl, rfl, stands, mem⟩
        exact .item stands (ih.mp mem)
      · intro leads
        cases leads with
        | item stands leads => exact ⟨_, _, _, rfl, rfl, stands, ih.mpr leads⟩
    · rw [Part.walk, mem_walkItem_cons]
      constructor
      · rintro ⟨entries, w, rfl, rfl, stands, mem⟩
        exact .items stands (ih.mp mem)
      · intro leads
        cases leads with
        | items stands leads => exact ⟨_, _, rfl, rfl, stands, ih.mpr leads⟩

theorem malformed_iff {v : Value} {place : Place} {cause : ItemCause} :
    Malformed v place cause ↔ ∃ x ∈ walkList v, x.1 = place ∧ x.2.cause? = some cause := by
  constructor
  · rintro ⟨part, leads, wrong⟩
    exact ⟨(place, part), mem_walk.mpr leads, rfl, wrong⟩
  · rintro ⟨⟨_, part⟩, mem, rfl, wrong⟩
    have leads : Leads (.list v) _ part := mem_walk.mp mem
    exact ⟨part, leads, wrong⟩

/-! ## The order of places -/

/-- Every place comes before all that are listed after it. -/
def Sorted (places : List (Place × Part)) : Prop := places.Pairwise fun x y => Before x.1 y.1

theorem Sorted.under {places : List (Place × Part)} (h : Sorted places) (step : PlaceStep) :
    Sorted (places.map (under step)) :=
  List.pairwise_map.mpr (h.imp fun before => .cons before)

theorem Sorted.below {places : List (Place × Part)} (h : Sorted places) (part : Part)
    (further : ∀ x ∈ places, x.1 ≠ []) : Sorted (([], part) :: places) := by
  refine List.pairwise_cons.mpr ⟨fun x mem => ?_, h⟩
  obtain ⟨step, place, eq⟩ := List.exists_cons_of_ne_nil (further x mem)
  rw [eq]
  exact .nil

mutual

theorem walkList_sorted : ∀ v : Value, Sorted (walkList v)
  | .list items => by
    rw [walkList]
    exact (walkFrom_sorted items 0).below _ walkFrom_further
  | .none | .bool _ | .int _ | .float _ | .decimal _ | .text _ | .markup _ | .date _ | .time _
  | .datetime _ _ | .zone _ | .step _ | .tuple _ | .table _ | .object _ | .computed _ => by
    simp only [walkList]
    exact List.pairwise_singleton _ _

theorem walkFrom_sorted : ∀ (vs : List Value) (index : Nat), Sorted (walkFrom index vs)
  | [], index => by
    rw [walkFrom]
    exact .nil
  | v :: rest, index => by
    rw [walkFrom]
    refine List.pairwise_append.mpr
      ⟨(walkItem_sorted v).under _, walkFrom_sorted rest (index + 1), fun x mem y mem' => ?_⟩
    -- the places of an item come before those of any later one
    obtain ⟨x', -, rfl⟩ := List.mem_map.mp mem
    obtain ⟨n, v', -, y', -, rfl⟩ := mem_walkFrom.mp mem'
    exact .rel (.item (by omega))

theorem walkItem_sorted : ∀ v : Value, Sorted (walkItem v)
  | .table entries => by
    rw [walkItem]
    split
    · exact (walkItems_sorted entries).below _ walkItems_further
    · exact List.pairwise_singleton _ _
  | .none | .bool _ | .int _ | .float _ | .decimal _ | .text _ | .markup _ | .date _ | .time _
  | .datetime _ _ | .zone _ | .step _ | .list _ | .tuple _ | .object _ | .computed _ => by
    simp only [walkItem]
    exact List.pairwise_singleton _ _

theorem walkItems_sorted : ∀ entries : List (Value × Value), Sorted (walkItems entries)
  | [] => by
    rw [walkItems]
    exact .nil
  | (key, v) :: rest => by
    rw [walkItems]
    split
    · split
      · exact .nil
      · exact (walkList_sorted v).under _
    · exact walkItems_sorted rest

end

/-- What is found first in a list of places is what the first of them has. -/
theorem Sorted.first_iff {β : Type} {places : List (Place × Part)} (sorted : Sorted places)
    (f : Place × Part → Option β) (b : β) :
    (∃ rest, places.filterMap f = b :: rest) ↔ ∃ x ∈ places, f x = some b ∧
      ∀ y ∈ places, (f y).isSome = true → y.1 = x.1 ∨ Before x.1 y.1 := by
  induction places with
  | nil => simp
  | cons x rest ih =>
    obtain ⟨before, sorted⟩ := List.pairwise_cons.mp sorted
    cases found : f x with
    | none =>
      rw [List.filterMap_cons_none found, ih sorted]
      simp [found]
    | some b' =>
      rw [List.filterMap_cons_some found]
      constructor
      · rintro ⟨_, ⟨⟩⟩
        refine ⟨x, List.mem_cons_self, found, fun y mem _ => ?_⟩
        rcases List.mem_cons.mp mem with rfl | mem
        · exact .inl rfl
        · exact .inr (before y mem)
      · rintro ⟨y, mem, found', first⟩
        rcases List.mem_cons.mp mem with rfl | mem
        · rw [found, Option.some.injEq] at found'
          exact ⟨_, by rw [found']⟩
        · -- a later place is not the first one
          rcases first x List.mem_cons_self (by rw [found]; rfl) with same | after
          · exact absurd (same ▸ before y mem) (Before.irrefl _)
          · exact absurd after (before y mem).asymm

end Formwright.Form.Items
