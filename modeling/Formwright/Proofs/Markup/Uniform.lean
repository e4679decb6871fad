import Formwright.Markup.Theme
import Formwright.Proofs.Value.Families

/-!
# Templates that print an index

A template that is filled for the index of a row may print it, but not test, inflect or count what
depends on it. The built-in templates are of this kind, so that a theme draws them alike for every
index.

- `Binds`: bindings that depend on the index as a shape says.
- `Node.isParametric`: templates that print what depends on the index and do nothing else with it.
- `fillAll_uniform`: filling such a template.
- `Theme.fill_uniform`: filling a template of a theme.
-/

namespace Formwright

/-- Markup that prints the index. -/
def PrintsAll (hs : Index → List Html) : Prop := Prints fun i => Html.writeAll (hs i)

theorem PrintsAll.append {hs hs' : Index → List Html} (h : PrintsAll hs) (h' : PrintsAll hs') :
    PrintsAll fun i => hs i ++ hs' i := by
  simp only [PrintsAll, Html.writeAll_append]
  exact Prints.append h h'

namespace Template

/-! ## Expressions -/

/-- The binding depends on the index as the shape says; a fragment prints it. -/
inductive Binds : Shape → (Index → Binding) → Prop where
  | undefined (shape : Shape) : Binds shape fun _ => .undefined
  | value {shape : Shape} {v : Index → Value} (h : Fits shape v) : Binds shape fun i => .value (v i)
  | fragment {body : Index → List Html} (h : PrintsAll body) :
    Binds .leaf fun i => .fragment (body i)

/-- The variables of the built-in templates that are more than texts, and those that have to be the
same for every index, because a template tests or inflects them. -/
def shapes : List (String × Shape) := [
  ("attrs", .table), ("controls", .records), ("control", .record), ("options", .records),
  ("option", .record), ("style", .fixed), ("human_label", .fixed), ("errors", .fixed),
  ("message", .fixed)]

/-- The shape of what a variable stands for. -/
def Shape.ofVariable (name : String) : Shape := (shapes.lookup name).getD .leaf

/-- The shape of what an expression stands for. -/
def Expr.shape : Expr → Shape
  | .name n => Shape.ofVariable n
  | .member _ n => .ofMember n
  | .label _ => .fixed
  | .sentences _ => .fixed

/-- The expression looks into records and tables, and inflects only what is the same for every
index. -/
def Expr.isParametric : Expr → Bool
  | .name _ => true
  | .member e n =>
    e.isParametric && (e.shape == .record || e.shape == .table && n != "options")
  | .label e => e.isParametric && e.shape == .fixed
  | .sentences e => e.isParametric && e.shape == .fixed

/-- Every variable depends on the index as its shape says. -/
abbrev ShapedScope (scope : Index → Scope) : Prop :=
  Each (Keyed fun name => Binds (Shape.ofVariable name)) scope

theorem Binds.value? {shape : Shape} {b : Index → Binding} (h : Binds shape b) :
    Perhaps (Fits shape) fun i => (b i).value? := by
  cases h with
  | undefined => exact .none
  | value h => exact .some h
  | fragment h => exact .some (.markup h)

variable {scope : Index → Scope}

theorem eval_uniform (shaped : ShapedScope scope) {e : Expr} (parametric : e.isParametric = true) :
    Uniform (Binds e.shape) fun i => e.eval (scope i) := by
  induction e with
  | name n =>
    rcases (shaped.lookup n).cases with unbound | ⟨b, binds, bound⟩
    · simp only [Expr.eval, unbound]
      exact .ok (.undefined _)
    · simp only [Expr.eval, bound]
      exact .ok binds
  | member e n ih =>
    simp only [Expr.isParametric, Bool.and_eq_true, Bool.or_eq_true, beq_iff_eq,
      bne_iff_ne] at parametric
    refine (ih parametric.1).bind fun b binds => ?_
    rcases binds.value?.cases with unbound | ⟨v, fits, bound⟩
    · simp only [unbound]
      exact .error _
    · rcases (fits.field? parametric.2).cases with missing | ⟨field, fits, present⟩
      · simp only [bound, missing]
        exact .ok (.undefined _)
      · simp only [bound, present]
        exact .ok (.value fits)
  | label e ih =>
    simp only [Expr.isParametric, Bool.and_eq_true, beq_iff_eq] at parametric
    refine (ih parametric.1).bind fun b binds => ?_
    rcases binds.value?.cases with unbound | ⟨v, fits, bound⟩
    · simp only [unbound]
      exact .ok (.value (.fixed _ _))
    · simp only [bound]
      rw [parametric.2] at fits
      cases fits
      exact .ok (.value (.fixed _ _))
  | sentences e ih =>
    simp only [Expr.isParametric, Bool.and_eq_true, beq_iff_eq] at parametric
    refine (ih parametric.1).bind fun b binds => ?_
    rcases binds.value?.cases with unbound | ⟨v, fits, bound⟩
    · simp only [unbound]
      exact .ok (.value (.fixed _ _))
    · simp only [bound]
      rw [parametric.2] at fits
      cases fits
      exact .bind_const fun sentences _ => .ok (.value (.fixed _ _))

/-! ## Conditions and attributes -/

/-- The condition compares only what is the same for every index. -/
def Condition.isParametric : Condition → Bool
  | .holds e => e.isParametric
  | .present e => e.isParametric
  | .equals e _ => e.isParametric && e.shape == .fixed
  | .negate c => c.isParametric

/-- The expression stands for a text, which may be printed. -/
def Expr.isPrinted (e : Expr) : Bool := e.isParametric && (e.shape == .fixed || e.shape == .leaf)

/-- The part prints texts only. -/
def Part.isParametric : Part → Bool
  | .text _ => true
  | .reference _ => true
  | .slot e => e.isPrinted

/-- The attributes print texts only. -/
def AttrSpec.isParametric : AttrSpec → Bool
  | .always _ value => value.all Part.isParametric
  | .when c _ value => c.isParametric && value.all Part.isParametric
  | .spread e => e.isParametric && e.shape == .table

theorem condition_uniform (shaped : ShapedScope scope) {c : Condition}
    (parametric : c.isParametric = true) : Uniform Fixed fun i => c.eval (scope i) := by
  induction c with
  | holds e =>
    refine (eval_uniform shaped parametric).map fun b binds => ?_
    rcases binds.value?.cases with unbound | ⟨v, fits, bound⟩
    · simp only [Binding.isTrue, unbound]
      exact Fixed.const _
    · simp only [Binding.isTrue, bound]
      exact fits.isTrue
  | present e =>
    refine (eval_uniform shaped parametric).bind fun b binds => ?_
    rcases binds.value?.cases with unbound | ⟨v, fits, bound⟩
    · simp only [unbound]
      exact .ok (Fixed.const _)
    · obtain ⟨isNone, same⟩ := fits.isNone
      simp only [bound, Option.elim, congrFun same]
      exact .ok (Fixed.const _)
  | equals e text =>
    simp only [Condition.isParametric, Bool.and_eq_true, beq_iff_eq] at parametric
    refine (eval_uniform shaped parametric.1).bind fun b binds => ?_
    rcases binds.value?.cases with unbound | ⟨v, fits, bound⟩
    · simp only [unbound]
      exact .ok (Fixed.const _)
    · simp only [bound]
      rw [parametric.2] at fits
      cases fits
      exact .ok (Fixed.const _)
  | negate c ih =>
    refine (ih parametric).map fun holds same => ?_
    obtain ⟨answer, rfl⟩ := same
    exact Fixed.const _

theorem printed_uniform (shaped : ShapedScope scope) {e : Expr} (printed : e.isPrinted = true) :
    Uniform (Binds .leaf) fun i => e.eval (scope i) := by
  simp only [Expr.isPrinted, Bool.and_eq_true, Bool.or_eq_true, beq_iff_eq] at printed
  obtain ⟨parametric, fixed | leaf⟩ := printed
  · have evaluated := eval_uniform shaped parametric
    rw [fixed] at evaluated
    refine evaluated.mono fun b binds => ?_
    cases binds with
    | undefined => exact .undefined _
    | value fits => exact .value (fits.of_fixed _)
  · exact leaf ▸ eval_uniform shaped parametric

theorem part_uniform (shaped : ShapedScope scope) (escaping : Bool) {p : Part}
    (parametric : p.isParametric = true) :
    Uniform (fun ps => Prints fun i => writePieces (ps i)) fun i => p.fill (scope i) escaping := by
  cases p with
  | text s => exact .ok (Prints.const _)
  | reference s => exact .ok (Prints.const _)
  | slot e =>
    refine (printed_uniform shaped parametric).map fun b binds => ?_
    rcases binds.value?.cases with unbound | ⟨v, fits, bound⟩
    · simp only [Binding.pieces, unbound]
      exact Prints.const _
    · simp only [Binding.pieces, bound]
      cases escaping with
      | true => exact fits.piece.append (Prints.const _)
      | false => exact fits.toText.append (Prints.const _)

theorem writePieces_append (ps qs : List Piece) :
    writePieces (ps ++ qs) = writePieces ps ++ writePieces qs := by
  induction ps with
  | nil => simp [writePieces]
  | cons p ps ih => simp [writePieces, ih, String.append_assoc]

theorem parts_uniform (shaped : ShapedScope scope) (escaping : Bool) {parts : List Part}
    (parametric : parts.all Part.isParametric = true) :
    Uniform (fun ps => Prints fun i => writePieces (ps i))
      fun i => fillParts (scope i) escaping parts := by
  induction parts with
  | nil => exact .ok (Prints.const _)
  | cons p rest ih =>
    rw [List.all_cons, Bool.and_eq_true] at parametric
    refine (part_uniform shaped escaping parametric.1).bind fun ps prints => ?_
    refine (ih parametric.2).bind fun qs prints' => .ok ?_
    simp only [writePieces_append]
    exact prints.append prints'

/-- Attributes that print the index. -/
def PrintsAttrs (attrs : Index → List Attr) : Prop := Prints fun i => writeAttrs (attrs i)

theorem writeAttrs_append (xs ys : List Attr) :
    writeAttrs (xs ++ ys) = writeAttrs xs ++ writeAttrs ys := by
  induction xs with
  | nil => simp [writeAttrs]
  | cons x xs ih => simp [writeAttrs, ih, String.append_assoc]

theorem PrintsAttrs.append {attrs more : Index → List Attr} (h : PrintsAttrs attrs)
    (h' : PrintsAttrs more) : PrintsAttrs fun i => attrs i ++ more i := by
  simp only [PrintsAttrs, writeAttrs_append]
  exact Prints.append h h'

theorem printsAttrs_single (name : Piece) {value : Index → List Piece}
    (h : Prints fun i => writePieces (value i)) : PrintsAttrs fun i => [⟨name, value i⟩] := by
  have named : Prints fun _ => " " ++ name.write ++ "=\"" := Prints.const _
  exact ((named.append h).append (Prints.const "\"")).append (Prints.const "")

theorem spread_uniform {entries : Index → List (Value × Value)}
    (h : Each (Keyed fun _ => Fits .leaf) entries) :
    Uniform PrintsAttrs fun i => spreadAttrs (entries i) := by
  induction h with
  | nil => exact .ok (Prints.const _)
  | cons first _ ih =>
    obtain @⟨key, v, fits⟩ := first
    obtain ⟨isNone, same⟩ := fits.isNone
    -- which entries are left out, and whether a name can be written, is the same for every index
    simp only [spreadAttrs, congrFun same]
    split
    · exact ih
    · split
      · exact .error _
      · split
        · exact .error _
        · refine ih.bind fun attrs prints => .ok ?_
          have own : Prints fun i => writePieces [(v i).piece] := fits.piece.append (Prints.const _)
          exact (printsAttrs_single key.piece own).append prints

theorem attr_uniform (shaped : ShapedScope scope) (escaping : Bool) {a : AttrSpec}
    (parametric : a.isParametric = true) :
    Uniform PrintsAttrs fun i => a.fill (scope i) escaping := by
  cases a with
  | always name value =>
    exact (parts_uniform shaped escaping parametric).bind fun ps prints =>
      .ok (printsAttrs_single _ prints)
  | when c name value =>
    rw [AttrSpec.isParametric, Bool.and_eq_true] at parametric
    refine (condition_uniform shaped parametric.1).bind fun holds same => ?_
    obtain ⟨answer, rfl⟩ := same
    cases answer with
    | false => exact .ok (Prints.const _)
    | true =>
      exact (parts_uniform shaped escaping parametric.2).bind fun ps prints =>
        .ok (printsAttrs_single _ prints)
  | spread e =>
    simp only [AttrSpec.isParametric, Bool.and_eq_true, beq_iff_eq] at parametric
    refine (eval_uniform shaped parametric.1).bind fun b binds => ?_
    rcases binds.value?.cases with unbound | ⟨v, fits, bound⟩
    · simp only [unbound]
      exact .error _
    · simp only [bound]
      rw [parametric.2] at fits
      cases fits with
      | fixed _ w => exact .const fun attrs _ => Prints.const _
      | table h => exact spread_uniform h

theorem attrs_uniform (shaped : ShapedScope scope) (escaping : Bool) {specs : List AttrSpec}
    (parametric : specs.all AttrSpec.isParametric = true) :
    Uniform PrintsAttrs fun i => fillAttrs (scope i) escaping specs := by
  induction specs with
  | nil => exact .ok (Prints.const _)
  | cons a rest ih =>
    rw [List.all_cons, Bool.and_eq_true] at parametric
    refine (attr_uniform shaped escaping parametric.1).bind fun attrs prints => ?_
    exact (ih parametric.2).bind fun more prints' => .ok (prints.append prints')

/-! ## Templates -/

mutual

/-- The template prints texts only, and repeats records only or what is the same for every
index. -/
def Node.isParametric : Node → Bool
  | .text _ => true
  | .slot e => e.isPrinted
  | .element _ attrs body => attrs.all AttrSpec.isParametric && Node.areParametric body
  | .void _ attrs => attrs.all AttrSpec.isParametric
  | .choose c yes no => c.isParametric && Node.areParametric yes && Node.areParametric no
  | .each name e body =>
    e.isParametric
      && (e.shape == .records && Shape.ofVariable name == .record || e.shape == .fixed)
      && Node.areParametric body

/-- Templates in a row that all are so. -/
def Node.areParametric : List Node → Bool
  | [] => true
  | n :: rest => n.isParametric && Node.areParametric rest

end

theorem builtIn_parametric : ∀ e ∈ builtIn, Node.areParametric e.2 = true := by decide +kernel

theorem html_uniform (shaped : ShapedScope scope) (escaping : Bool) {e : Expr}
    (printed : e.isPrinted = true) :
    Uniform PrintsAll fun i => Binding.html escaping <$> e.eval (scope i) := by
  refine (printed_uniform shaped printed).map fun b binds => ?_
  cases binds with
  | undefined => exact Prints.const _
  | fragment h => exact h
  | value fits =>
    cases escaping with
    | true => exact fits.piece.append (Prints.const _)
    | false => exact fits.toText.append (Prints.const _)

theorem items_uniform {shape member : Shape} {b : Index → Binding} (binds : Binds shape b)
    (has : shape = .records ∧ member = .record ∨ shape = .fixed) :
    Uniform (Each (Fits member)) fun i => (b i).items := by
  rcases binds.value?.cases with unbound | ⟨v, fits, bound⟩
  · simp only [Binding.items, unbound]
    exact .ok .nil
  · rcases (fits.items? has).cases with missing | ⟨items, members, present⟩
    · simp only [Binding.items, bound, missing]
      exact .error _
    · simp only [Binding.items, bound, present]
      exact .ok members

theorem concatM_uniform {α : Type} {R : (Index → α) → Prop}
    {f : Index → α → Except Fault (List Html)} {items : Index → List α} (h : Each R items)
    (next : ∀ a, R a → Uniform PrintsAll fun i => f i (a i)) :
    Uniform PrintsAll fun i => concatM (f i) (items i) := by
  induction h with
  | nil => exact .ok (Prints.const _)
  | cons first _ ih =>
    refine (next _ first).bind fun hs prints => ?_
    exact ih.bind fun more prints' => .ok (prints.append prints')

mutual

theorem fill_uniform (escaping : Bool) : ∀ (n : Node), n.isParametric = true →
    ∀ {scope : Index → Scope}, ShapedScope scope →
    Uniform PrintsAll fun i => Node.fill (scope i) escaping n
  | .text s, _, _, _ => .ok (Prints.const _)
  | .slot e, parametric, _, shaped => html_uniform shaped escaping parametric
  | .element tag specs body, parametric, scope, shaped => by
    rw [Node.isParametric, Bool.and_eq_true] at parametric
    refine (attrs_uniform shaped escaping parametric.1).bind fun attrs prints => ?_
    refine (fillAll_uniform escaping body parametric.2 shaped).bind fun hs prints' => .ok ?_
    have start : Prints fun i => "<" ++ tag ++ writeAttrs (attrs i) ++ ">" :=
      ((Prints.const _).append prints).append (Prints.const _)
    have inner : Prints fun i => "<" ++ tag ++ writeAttrs (attrs i) ++ ">"
        ++ Html.writeAll (hs i) ++ "</" ++ tag ++ ">" :=
      (((start.append prints').append (Prints.const _)).append (Prints.const _)).append
        (Prints.const _)
    exact inner.append (Prints.const _)
  | .void tag specs, parametric, scope, shaped => by
    refine (attrs_uniform shaped escaping parametric).bind fun attrs prints => .ok ?_
    have own : Prints fun i => "<" ++ tag ++ writeAttrs (attrs i) ++ ">" :=
      ((Prints.const _).append prints).append (Prints.const _)
    exact own.append (Prints.const _)
  | .choose c yes no, parametric, scope, shaped => by
    simp only [Node.isParametric, Bool.and_eq_true] at parametric
    refine (condition_uniform shaped parametric.1.1).bind fun holds same => ?_
    obtain ⟨answer, rfl⟩ := same
    cases answer with
    | false => exact fillAll_uniform escaping no parametric.2 shaped
    | true => exact fillAll_uniform escaping yes parametric.1.2 shaped
  | .each name e body, parametric, scope, shaped => by
    simp only [Node.isParametric, Bool.and_eq_true, Bool.or_eq_true, beq_iff_eq] at parametric
    refine (eval_uniform shaped parametric.1.1).bind fun b binds => ?_
    refine (items_uniform binds parametric.1.2).bind fun items members => ?_
    refine concatM_uniform members fun v fits => ?_
    exact fillAll_uniform escaping body parametric.2 (shaped.entry (.value fits))

theorem fillAll_uniform (escaping : Bool) : ∀ (ns : List Node), Node.areParametric ns = true →
    ∀ {scope : Index → Scope}, ShapedScope scope →
    Uniform PrintsAll fun i => Node.fillAll (scope i) escaping ns
  | [], _, _, _ => .ok (Prints.const _)
  | n :: rest, parametric, scope, shaped => by
    rw [Node.areParametric, Bool.and_eq_true] at parametric
    refine (fill_uniform escaping n parametric.1 shaped).bind fun hs prints => ?_
    refine (fillAll_uniform escaping rest parametric.2 shaped).bind fun more prints' => ?_
    exact .ok (prints.append prints')

end

end Template

/-! ## Themes -/

namespace Theme

open Template

theorem builtIn?_listed {name : String} {body : List Node}
    (h : builtIn? name = some (.builtIn body)) : ∃ path, (path, body) ∈ builtIn := by
  obtain ⟨found, located, made⟩ := Option.map_eq_some_iff.mp h
  cases made
  obtain ⟨path, -, listed⟩ := Option.bind_eq_some_iff.mp located
  obtain ⟨before, after, split, -⟩ := List.lookup_eq_some_iff.mp listed
  exact ⟨path, split ▸ by simp⟩

/-- A theme finds no other templates than files and the built-in ones. -/
theorem find?_listed {theme : Theme} {name : String} {body : List Node}
    (h : theme.find? name = some (.builtIn body)) : ∃ path, (path, body) ∈ builtIn := by
  have notFile : theme.file? name ≠ some (.builtIn body) := by
    intro found
    simp [file?, Option.bind_eq_some_iff] at found
  simp only [find?, Option.orElse_eq_orElse, Option.orElse_eq_or, Option.or_eq_some_iff] at h
  rcases h with marked | ⟨-, ofFile | ⟨-, h⟩⟩
  · split at marked
    · exact builtIn?_listed marked
    · cases marked
  · exact absurd ofFile notFile
  · exact builtIn?_listed h

/-- Variables that make no difference to a built-in template make none to a theme. -/
theorem fill_congr (theme : Theme) {scope scope' : Scope}
    (same : ∀ e ∈ builtIn, ∀ escaping,
      Node.fillAll scope escaping e.2 = Node.fillAll scope' escaping e.2) (name : String) :
    theme.fill name scope = theme.fill name scope' := by
  suffices within : ∀ depth name,
      theme.fillWithin scope depth name = theme.fillWithin scope' depth name from
    within theme.maxDepth name
  intro depth
  induction depth with
  | zero => exact fun _ => rfl
  | succ depth ih =>
    intro name
    simp only [fillWithin, ih]
    split
    · rfl
    · rename_i body found
      obtain ⟨path, listed⟩ := find?_listed found
      exact same (path, body) listed _
    · rfl

theorem fillWithin_uniform (theme : Theme) {scope : Index → Scope} (shaped : ShapedScope scope)
    (depth : Nat) (name : String) :
    Uniform PrintsAll fun i => theme.fillWithin (scope i) depth name := by
  induction depth generalizing name with
  | zero => exact .error _
  | succ depth ih =>
    simp only [fillWithin]
    split
    · exact .error _
    · rename_i body found
      obtain ⟨path, listed⟩ := find?_listed found
      exact fillAll_uniform _ body (builtIn_parametric (path, body) listed) shaped
    · rename_i parts _
      have same : Each Fixed fun _ => parts := Each.const fun part _ => Fixed.const part
      refine concatM_uniform same fun part isSame => ?_
      obtain ⟨part, rfl⟩ := isSame
      cases part with
      | text s => exact .ok (Prints.const _)
      | embed included => exact ih included

/-- **Filling prints.** A theme fills its templates alike for every index, and the markup prints the
index where it shows one. -/
theorem fill_uniform (theme : Theme) (name : String) {scope : Index → Scope}
    (shaped : ShapedScope scope) : Uniform PrintsAll fun i => theme.fill name (scope i) :=
  theme.fillWithin_uniform shaped theme.maxDepth name

end Theme

end Formwright
