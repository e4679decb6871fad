import Formwright.Proofs.Markup.Filling
import Formwright.Proofs.Markup.Uniform

/-!
# When filling a template fails

Most parts of a template never fail: what is not there is empty, and any value can be written. What
can fail is a table of attributes, which may be missing or have a name that cannot be written, and
repeating over what has no members. A built-in template has no other reasons to fail, so it ends
alike for variables that agree on these, whatever their values are, and so does a template of a
project, which is made of built-in ones.

- `Furnished`: what is repeated over has members.
- `Node.isSure`, `fillAll_sure`: templates that never fail.
- `Node.isSteady`, `fillAll_steady`: templates that fail for their attributes only.
- `Theme.fill_ends`: the templates of a theme.
-/

namespace Formwright

namespace Template

open Outcome

/-! ## Variables -/

/-- What the built-in templates repeat over has members, and there are no selects of a date or
time. -/
structure Furnished (scope : Scope) : Prop where
  options : ∃ items, ((scope.lookup "options").getD .undefined).items = .ok items
  controls : scope.lookup "controls" = none
  errors : ∃ b, (Expr.sentences (.name "errors")).eval scope = .ok b

/-- The variables that are repeated over, which no part of a template binds. -/
def givenNames : List String := ["options", "controls", "errors"]

theorem Furnished.cons {scope : Scope} (h : Furnished scope) {x : String}
    (other : x ∉ givenNames) (b : Binding) : Furnished ((x, b) :: scope) := by
  have kept : ∀ y ∈ givenNames, ((x, b) :: scope).lookup y = scope.lookup y := by
    intro y mem
    have differs : y ≠ x := fun same => other (same ▸ mem)
    rw [List.lookup_cons, beq_eq_false_iff_ne.mpr differs]
  constructor
  · rw [kept "options" (by decide)]
    exact h.options
  · rw [kept "controls" (by decide)]
    exact h.controls
  · simp only [Expr.eval, kept "errors" (by decide)]
    exact h.errors

theorem Furnished.nil : Furnished [] where
  options := ⟨[], rfl⟩
  controls := rfl
  errors := ⟨.value (.list []), rfl⟩

/-- Variables none of which is repeated over. -/
theorem Furnished.of_free {scope : Scope}
    (free : (scope.all fun b => !givenNames.contains b.1) = true) : Furnished scope := by
  induction scope with
  | nil => exact .nil
  | cons b rest ih =>
    rw [List.all_cons, Bool.and_eq_true, Bool.not_eq_true', List.contains_eq_mem,
      decide_eq_false_iff_not] at free
    exact (ih free.2).cons free.1 b.2

/-- The variables stand for values. -/
def Bound (names : List String) (scope : Scope) : Prop :=
  ∀ x ∈ names, ∃ v, scope.lookup x = some (.value v)

theorem Bound.cons {names : List String} {scope : Scope} (h : Bound names scope) (x : String)
    (v : Value) : Bound (x :: names) ((x, .value v) :: scope) := by
  intro y mem
  rw [List.lookup_cons]
  by_cases same : y = x
  · exact ⟨v, by simp [same]⟩
  · rw [beq_eq_false_iff_ne.mpr same]
    exact h y ((List.mem_cons.mp mem).resolve_left same)

/-! ## Templates that never fail -/

/-- The expression looks into variables that stand for values only. -/
def Expr.isSure (names : List String) : Expr → Bool
  | .name _ => true
  | .member (.name x) _ => names.contains x
  | .member _ _ => false
  | .label e => e.isSure names
  | .sentences _ => false

/-- The condition can be tested. -/
def Condition.isSure (names : List String) : Condition → Bool
  | .holds e => e.isSure names
  | .present e => e.isSure names
  | .equals e _ => e.isSure names
  | .negate c => c.isSure names

/-- The part can be written. -/
def Part.isSure (names : List String) : Part → Bool
  | .text _ => true
  | .reference _ => true
  | .slot e => e.isSure names

/-- The attribute can be written. -/
def AttrSpec.isSure (names : List String) : AttrSpec → Bool
  | .always _ value => value.all (·.isSure names)
  | .when c _ value => c.isSure names && value.all (·.isSure names)
  | .spread _ => false

/-- The expression stands for something with members; `controls` has none. -/
def Expr.repeats : Expr → Bool
  | .name x => x == "options"
  | .sentences (.name x) => x == "errors"
  | _ => false

mutual

/-- Every part of the template can be filled, if what it repeats over has members. -/
def Node.isSure (names : List String) : Node → Bool
  | .text _ => true
  | .slot e => e.isSure names
  | .element _ attrs body => attrs.all (·.isSure names) && Node.areSure names body
  | .void _ attrs => attrs.all (·.isSure names)
  | .choose c yes no => c.isSure names && Node.areSure names yes && Node.areSure names no
  | .each x e body =>
    match e with
    | .name "controls" => true
    | e => e.repeats && !givenNames.contains x && Node.areSure (x :: names) body

/-- Templates in a row that all are so. -/
def Node.areSure (names : List String) : List Node → Bool
  | [] => true
  | n :: rest => n.isSure names && Node.areSure names rest

end

variable {names : List String} {scope scope' : Scope}

theorem eval_sure (bound : Bound names scope) {e : Expr} (sure : e.isSure names = true) :
    ∃ b, e.eval scope = .ok b := by
  induction e with
  | name x => exact ⟨_, rfl⟩
  | member e n _ =>
    cases e with
    | name x =>
      obtain ⟨v, found⟩ := bound x (List.contains_iff_mem.mp sure)
      refine ⟨((v.field? n).map Binding.value).getD .undefined, ?_⟩
      simp only [Expr.eval, found, Option.getD_some, ok_bind, Binding.value?, pure_eq]
    | _ => cases sure
  | label e ih =>
    obtain ⟨b, evaluated⟩ := ih sure
    exact ⟨.value (.text (b.value?.elim "" labelOf)), by rw [Expr.eval, evaluated]; rfl⟩
  | sentences e _ => cases sure

theorem condition_sure (bound : Bound names scope) {c : Condition}
    (sure : c.isSure names = true) : ∃ holds, c.eval scope = .ok holds := by
  induction c with
  | holds e =>
    obtain ⟨b, evaluated⟩ := eval_sure bound sure
    exact ⟨_, by rw [Condition.eval, evaluated]; rfl⟩
  | present e =>
    obtain ⟨b, evaluated⟩ := eval_sure bound sure
    exact ⟨_, by rw [Condition.eval, evaluated]; rfl⟩
  | equals e text =>
    obtain ⟨b, evaluated⟩ := eval_sure bound sure
    exact ⟨_, by rw [Condition.eval, evaluated]; rfl⟩
  | negate c ih =>
    obtain ⟨holds, evaluated⟩ := ih sure
    exact ⟨_, by rw [Condition.eval, evaluated]; rfl⟩

theorem parts_sure (escaping : Bool) (bound : Bound names scope) {parts : List Part}
    (sure : parts.all (·.isSure names) = true) :
    ∃ ps, fillParts scope escaping parts = .ok ps := by
  induction parts with
  | nil => exact ⟨[], rfl⟩
  | cons p rest ih =>
    rw [List.all_cons, Bool.and_eq_true] at sure
    obtain ⟨others, filledRest⟩ := ih sure.2
    have first : ∃ ps, p.fill scope escaping = .ok ps := by
      cases p with
      | text s => exact ⟨_, rfl⟩
      | reference s => exact ⟨_, rfl⟩
      | slot e =>
        obtain ⟨b, evaluated⟩ := eval_sure bound sure.1
        exact ⟨_, by rw [Part.fill, evaluated]; rfl⟩
    obtain ⟨ps, filled⟩ := first
    exact ⟨ps ++ others, by rw [fillParts, filled, filledRest]; rfl⟩

theorem attr_sure (escaping : Bool) (bound : Bound names scope) {a : AttrSpec}
    (sure : a.isSure names = true) : ∃ attrs, a.fill scope escaping = .ok attrs := by
  cases a with
  | always name value =>
    obtain ⟨ps, filled⟩ := parts_sure escaping bound sure
    exact ⟨_, by rw [AttrSpec.fill, filled]; rfl⟩
  | «when» c name value =>
    rw [AttrSpec.isSure, Bool.and_eq_true] at sure
    obtain ⟨holds, tested⟩ := condition_sure bound sure.1
    obtain ⟨ps, filled⟩ := parts_sure escaping bound sure.2
    rw [AttrSpec.fill, tested]
    cases holds with
    | false => exact ⟨[], rfl⟩
    | true => exact ⟨_, by rw [ok_bind, if_pos rfl, filled]; rfl⟩
  | spread e => cases sure

theorem attrs_sure (escaping : Bool) (bound : Bound names scope) {specs : List AttrSpec}
    (sure : specs.all (·.isSure names) = true) :
    ∃ attrs, fillAttrs scope escaping specs = .ok attrs := by
  induction specs with
  | nil => exact ⟨[], rfl⟩
  | cons a rest ih =>
    rw [List.all_cons, Bool.and_eq_true] at sure
    obtain ⟨attrs, filled⟩ := attr_sure escaping bound sure.1
    obtain ⟨others, filledRest⟩ := ih sure.2
    exact ⟨attrs ++ others, by rw [fillAttrs, filled, filledRest]; rfl⟩

theorem concatM_total {α β : Type} {f : α → Except Fault (List β)} {items : List α}
    (each : ∀ item ∈ items, ∃ part, f item = .ok part) : ∃ parts, concatM f items = .ok parts := by
  induction items with
  | nil => exact ⟨[], rfl⟩
  | cons item rest ih =>
    obtain ⟨part, filled⟩ := each item List.mem_cons_self
    obtain ⟨parts, filledRest⟩ := ih fun other mem => each other (List.mem_cons_of_mem item mem)
    exact ⟨part ++ parts, by rw [concatM, filled, filledRest]; rfl⟩

theorem repeats_items (furnished : Furnished scope) {e : Expr} (has : e.repeats = true) :
    ∃ b items, e.eval scope = .ok b ∧ b.items = .ok items := by
  unfold Expr.repeats at has
  split at has
  · obtain rfl := beq_iff_eq.mp has
    obtain ⟨items, members⟩ := furnished.options
    exact ⟨_, items, rfl, members⟩
  · obtain rfl := beq_iff_eq.mp has
    obtain ⟨b, evaluated⟩ := furnished.errors
    refine ⟨b, ?_⟩
    -- the sentences are a list in any case
    obtain ⟨errors, -, said⟩ := bind_eq_ok.mp evaluated
    split at said
    · obtain ⟨sentences, -, said⟩ := bind_eq_ok.mp said
      cases said
      exact ⟨_, evaluated, rfl⟩
    · cases said
      exact ⟨_, evaluated, rfl⟩
  · cases has

mutual

theorem fill_sure (escaping : Bool) : ∀ (n : Node) {names : List String} {scope : Scope},
    Furnished scope → Bound names scope → n.isSure names = true →
    ∃ hs, Node.fill scope escaping n = .ok hs
  | .text s, _, _, _, _, _ => ⟨_, rfl⟩
  | .slot e, _, _, _, bound, sure => by
    obtain ⟨b, evaluated⟩ := eval_sure bound sure
    exact ⟨_, by rw [Node.fill, evaluated]; rfl⟩
  | .element tag specs body, _, _, furnished, bound, sure => by
    rw [Node.isSure, Bool.and_eq_true] at sure
    obtain ⟨attrs, filled⟩ := attrs_sure escaping bound sure.1
    obtain ⟨inner, filledBody⟩ := fillAll_sure escaping body furnished bound sure.2
    exact ⟨_, by rw [Node.fill, filled, ok_bind, filledBody]; rfl⟩
  | .void tag specs, _, _, _, bound, sure => by
    obtain ⟨attrs, filled⟩ := attrs_sure escaping bound sure
    exact ⟨_, by rw [Node.fill, filled]; rfl⟩
  | .choose c yes no, _, _, furnished, bound, sure => by
    simp only [Node.isSure, Bool.and_eq_true] at sure
    obtain ⟨holds, tested⟩ := condition_sure bound sure.1.1
    rw [Node.fill, tested]
    cases holds with
    | false => exact fillAll_sure escaping no furnished bound sure.2
    | true => exact fillAll_sure escaping yes furnished bound sure.1.2
  | .each x e body, _, scope, furnished, bound, sure => by
    unfold Node.isSure at sure
    split at sure
    · refine ⟨[], ?_⟩
      simp only [Node.fill, Expr.eval, furnished.controls]
      rfl
    · simp only [Bool.and_eq_true, Bool.not_eq_true', List.contains_eq_mem,
        decide_eq_false_iff_not] at sure
      obtain ⟨b, items, evaluated, members⟩ := repeats_items furnished sure.1.1
      rw [Node.fill, evaluated, ok_bind, members, ok_bind]
      refine concatM_total fun v _ => ?_
      exact fillAll_sure escaping body (furnished.cons sure.1.2 _) (bound.cons x v) sure.2

/-- **Templates that never fail.** -/
theorem fillAll_sure (escaping : Bool) : ∀ (ns : List Node) {names : List String} {scope : Scope},
    Furnished scope → Bound names scope → Node.areSure names ns = true →
    ∃ hs, Node.fillAll scope escaping ns = .ok hs
  | [], _, _, _, _, _ => ⟨[], rfl⟩
  | n :: rest, _, _, furnished, bound, sure => by
    rw [Node.areSure, Bool.and_eq_true] at sure
    obtain ⟨first, filled⟩ := fill_sure escaping n furnished bound sure.1
    obtain ⟨others, filledRest⟩ := fillAll_sure escaping rest furnished bound sure.2
    exact ⟨first ++ others, by rw [Node.fillAll, filled, filledRest]; rfl⟩

end

/-! ## Templates that fail for their attributes -/

/-- The tables of attributes are both missing, or are written or not for the same reason. -/
inductive AttrsAlike (scope scope' : Scope) : Prop where
  | missing (h : scope.lookup "attrs" = none) (h' : scope'.lookup "attrs" = none)
  | tables {table table' : List (Value × Value)}
      (h : scope.lookup "attrs" = some (.value (.table table)))
      (h' : scope'.lookup "attrs" = some (.value (.table table')))
      (ends : SameEnd (spreadAttrs table) (spreadAttrs table'))

/-- The variables give a template the same reasons to fail. -/
structure Interchangeable (scope scope' : Scope) : Prop where
  left : Furnished scope
  right : Furnished scope'
  attrs : AttrsAlike scope scope'

/-- The attribute can be written, or it is the table of attributes or one of them. -/
def AttrSpec.isSteady : AttrSpec → Bool
  | .spread (.name x) => x == "attrs"
  | .always _ [.slot (.member (.name x) _)] => x == "attrs"
  | a => a.isSure []

/-- The template fails for its attributes only. -/
def Node.isSteady : Node → Bool
  | .element _ attrs body => attrs.all AttrSpec.isSteady && Node.areSure [] body
  | .void _ attrs => attrs.all AttrSpec.isSteady
  | n => n.isSure []

theorem builtIn_steady : ∀ e ∈ builtIn, e.2.all Node.isSteady = true := by decide +kernel

theorem bound_nil (scope : Scope) : Bound [] scope := by
  intro x mem
  cases mem

theorem attr_steady (escaping : Bool) (h : AttrsAlike scope scope') {a : AttrSpec}
    (steady : a.isSteady = true) : SameEnd (a.fill scope escaping) (a.fill scope' escaping) := by
  unfold AttrSpec.isSteady at steady
  split at steady
  · obtain rfl := beq_iff_eq.mp steady
    simp only [AttrSpec.fill, Expr.eval]
    cases h with
    | missing h h' =>
      rw [h, h']
      exact .error _
    | tables h h' ends =>
      rw [h, h']
      exact ends
  · obtain rfl := beq_iff_eq.mp steady
    simp only [AttrSpec.fill, fillParts, Part.fill, Expr.eval]
    cases h with
    | missing h h' =>
      rw [h, h']
      exact .error _
    | tables h h' ends =>
      rw [h, h']
      exact .ok trivial
  · exact .of_total (attr_sure escaping (bound_nil _) steady)
      (attr_sure escaping (bound_nil _) steady)

theorem attrs_steady (escaping : Bool) (h : AttrsAlike scope scope') {specs : List AttrSpec}
    (steady : specs.all AttrSpec.isSteady = true) :
    SameEnd (fillAttrs scope escaping specs) (fillAttrs scope' escaping specs) := by
  induction specs with
  | nil => exact .ok trivial
  | cons a rest ih =>
    rw [List.all_cons, Bool.and_eq_true] at steady
    refine (attr_steady escaping h steady.1).andThen fun _ _ => ?_
    exact (ih steady.2).thenReturn

theorem fill_steady (escaping : Bool) (h : Interchangeable scope scope') {n : Node}
    (steady : n.isSteady = true) :
    SameEnd (Node.fill scope escaping n) (Node.fill scope' escaping n) := by
  unfold Node.isSteady at steady
  split at steady
  · rename_i tag specs body
    rw [Bool.and_eq_true] at steady
    rw [Node.fill, Node.fill]
    refine (attrs_steady escaping h.attrs steady.1).andThen fun _ _ => ?_
    have inner : SameEnd (Node.fillAll scope escaping body) (Node.fillAll scope' escaping body) :=
      .of_total (fillAll_sure escaping body h.left (bound_nil _) steady.2)
        (fillAll_sure escaping body h.right (bound_nil _) steady.2)
    exact inner.thenReturn
  · rw [Node.fill, Node.fill]
    exact (attrs_steady escaping h.attrs steady).thenReturn
  · exact .of_total (fill_sure escaping n h.left (bound_nil _) steady)
      (fill_sure escaping n h.right (bound_nil _) steady)

theorem fillAll_steady (escaping : Bool) (h : Interchangeable scope scope') {ns : List Node}
    (steady : ns.all Node.isSteady = true) :
    SameEnd (Node.fillAll scope escaping ns) (Node.fillAll scope' escaping ns) := by
  induction ns with
  | nil => exact .ok trivial
  | cons n rest ih =>
    rw [List.all_cons, Bool.and_eq_true] at steady
    rw [Node.fillAll, Node.fillAll]
    refine (fill_steady escaping h steady.1).andThen fun _ _ => ?_
    exact (ih steady.2).thenReturn

section

variable {P : Fault → Prop} {table : List (Value × Value)}

theorem attr_fails (escaping : Bool) (given : scope.lookup "attrs" = some (.value (.table table)))
    (spread : FailsWith P (spreadAttrs table)) {a : AttrSpec} (steady : a.isSteady = true) :
    FailsWith P (a.fill scope escaping) := by
  unfold AttrSpec.isSteady at steady
  split at steady
  · obtain rfl := beq_iff_eq.mp steady
    simp only [AttrSpec.fill, Expr.eval, given]
    exact spread
  · obtain rfl := beq_iff_eq.mp steady
    simp only [AttrSpec.fill, fillParts, Part.fill, Expr.eval, given]
    exact .ok _
  · exact .of_total (attr_sure escaping (bound_nil _) steady)

theorem attrs_fails (escaping : Bool) (given : scope.lookup "attrs" = some (.value (.table table)))
    (spread : FailsWith P (spreadAttrs table)) {specs : List AttrSpec}
    (steady : specs.all AttrSpec.isSteady = true) :
    FailsWith P (fillAttrs scope escaping specs) := by
  induction specs with
  | nil => exact .ok _
  | cons a rest ih =>
    rw [List.all_cons, Bool.and_eq_true] at steady
    refine (attr_fails escaping given spread steady.1).bind fun _ _ => ?_
    exact (ih steady.2).thenReturn

theorem fill_fails (escaping : Bool) (furnished : Furnished scope)
    (given : scope.lookup "attrs" = some (.value (.table table)))
    (spread : FailsWith P (spreadAttrs table)) {n : Node} (steady : n.isSteady = true) :
    FailsWith P (Node.fill scope escaping n) := by
  unfold Node.isSteady at steady
  split at steady
  · rename_i tag specs body
    rw [Bool.and_eq_true] at steady
    have inner : ∃ hs, Node.fillAll scope escaping body = .ok hs :=
      fillAll_sure escaping body furnished (bound_nil _) steady.2
    refine (attrs_fails escaping given spread steady.1).bind fun _ _ => ?_
    exact (FailsWith.of_total inner).thenReturn
  · exact (attrs_fails escaping given spread steady).thenReturn
  · exact .of_total (fill_sure escaping n furnished (bound_nil _) steady)

/-- A template that is given a table of attributes fails if they cannot be written. -/
theorem fillAll_fails (escaping : Bool) (furnished : Furnished scope)
    (given : scope.lookup "attrs" = some (.value (.table table)))
    (spread : FailsWith P (spreadAttrs table)) {ns : List Node}
    (steady : ns.all Node.isSteady = true) : FailsWith P (Node.fillAll scope escaping ns) := by
  induction ns with
  | nil => exact .ok _
  | cons n rest ih =>
    rw [List.all_cons, Bool.and_eq_true] at steady
    refine (fill_fails escaping furnished given spread steady.1).bind fun _ _ => ?_
    exact (ih steady.2).thenReturn

end

theorem concatM_ends {α β : Type} {f g : α → Except Fault (List β)} {items : List α}
    (each : ∀ item, SameEnd (f item) (g item)) : SameEnd (concatM f items) (concatM g items) := by
  induction items with
  | nil => exact .ok trivial
  | cons item rest ih =>
    rw [concatM, concatM]
    refine (each item).andThen fun _ _ => ?_
    exact ih.thenReturn

end Template

/-! ## Themes -/

namespace Theme

open Outcome Template

variable {scope scope' : Scope}

theorem fillWithin_ends (theme : Theme) (h : Interchangeable scope scope') (depth : Nat)
    (name : String) :
    SameEnd (theme.fillWithin scope depth name) (theme.fillWithin scope' depth name) := by
  induction depth generalizing name with
  | zero => exact .error _
  | succ depth ih =>
    rw [fillWithin, fillWithin]
    split
    · exact .error _
    · rename_i body found
      obtain ⟨path, listed⟩ := find?_listed found
      exact fillAll_steady _ h (builtIn_steady (path, body) listed)
    · refine concatM_ends fun part => ?_
      cases part with
      | text s => exact .ok trivial
      | embed included => exact ih included

/-- **When filling fails.** A theme fills a template for both scopes, or fails for both with the
same fault. -/
theorem fill_ends (theme : Theme) (name : String) (h : Interchangeable scope scope') :
    SameEnd (theme.fill name scope) (theme.fill name scope') :=
  theme.fillWithin_ends h theme.maxDepth name

/-- The built-in theme fails on a template that is given a table of attributes if they cannot be
written. -/
theorem standard_fails {P : Fault → Prop} {table : List (Value × Value)} (name : String)
    (body : List Node) (listed : (name, body) ∈ builtIn) (furnished : Furnished scope)
    (given : scope.lookup "attrs" = some (.value (.table table)))
    (spread : FailsWith P (spreadAttrs table)) : FailsWith P (standard.fill name scope) := by
  rw [standard_fill name body listed]
  exact fillAll_fails true furnished given spread (builtIn_steady (name, body) listed)

/-- The built-in theme does not fail on a template that never fails. -/
theorem standard_sure (name : String) (body : List Node) (listed : (name, body) ∈ builtIn)
    (sure : Node.areSure [] body = true) (furnished : Furnished scope) :
    ∃ hs, standard.fill name scope = .ok hs := by
  rw [standard_fill name body listed]
  exact fillAll_sure true body furnished (bound_nil scope) sure

end Theme

end Formwright
