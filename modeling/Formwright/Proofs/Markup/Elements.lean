import Formwright.Proofs.Markup.Drawn

/-!
# Elements of a markup tree

The elements of a tree in document order, and the ids among them. A template that shows a fragment in
all cases keeps the elements of the fragment, in their order: `Node.shows` finds such a place, and
`fillAll_sublist` says what it is good for.

- `Html.elements`, `Html.elementsAll`: all elements, depth first.
- `Html.idsAll`: the ids of elements.
- `Node.shows`: a variable is put out whatever the conditions are.
- `fillAll_sublist`: what is put out is found in the filled template.
- `fillAll_mem`: what is found in a filled template is of one of its tags, or of a fragment.
-/

namespace Formwright

open Outcome Template

namespace Html

/-! ## Elements in document order -/

mutual

/-- The elements of a tree in document order. -/
def elements : Html → List Html
  | .piece _ => []
  | .element tag attrs body => .element tag attrs body :: elementsAll body
  | .void tag attrs => [.void tag attrs]

/-- The elements of trees in a row. -/
def elementsAll : List Html → List Html
  | [] => []
  | h :: rest => h.elements ++ elementsAll rest

end

@[simp] theorem elements_piece (p : Piece) : (Html.piece p).elements = [] := rfl

@[simp] theorem elements_element (tag : String) (attrs : List Attr) (body : List Html) :
    (Html.element tag attrs body).elements = .element tag attrs body :: elementsAll body := rfl

@[simp] theorem elements_void (tag : String) (attrs : List Attr) :
    (Html.void tag attrs).elements = [.void tag attrs] := rfl

@[simp] theorem elementsAll_nil : elementsAll [] = [] := rfl

@[simp] theorem elementsAll_cons (h : Html) (rest : List Html) :
    elementsAll (h :: rest) = h.elements ++ elementsAll rest := rfl

@[simp] theorem elementsAll_append (xs ys : List Html) :
    elementsAll (xs ++ ys) = elementsAll xs ++ elementsAll ys := by
  induction xs with
  | nil => rfl
  | cons x xs ih => simp [ih]

theorem elementsAll_joinLines (blocks : List (List Html)) :
    elementsAll (joinLines blocks) = blocks.flatMap elementsAll := by
  induction blocks with
  | nil => rfl
  | cons block rest ih =>
    cases rest with
    | nil => simp [joinLines]
    | cons next rest =>
      rw [joinLines, elementsAll_append, elementsAll_cons, ih]
      · simp [lineFeed]
      · simp

/-- The tag of an element. -/
def tag? : Html → Option String
  | .piece _ => none
  | .element tag _ _ => some tag
  | .void tag _ => some tag

theorem mem_elementsAll {hs : List Html} {x : Html} {tag : String} (hx : x ∈ hs)
    (isTag : x.tag? = some tag) : x ∈ elementsAll hs := by
  induction hs with
  | nil => cases hx
  | cons h rest ih =>
    rw [elementsAll_cons, List.mem_append]
    rcases List.mem_cons.mp hx with rfl | hx
    · left
      cases x with
      | piece p => cases isTag
      | element tag attrs body => exact List.mem_cons_self
      | void tag attrs => exact List.mem_cons_self
    · exact Or.inr (ih hx)

/-- The id of an element, if it has one. -/
def id? (h : Html) : Option String := attr? "id" h.attrs

/-- The ids of the elements of trees in a row. -/
def idsAll (hs : List Html) : List String := (elementsAll hs).filterMap id?

@[simp] theorem idsAll_nil : idsAll [] = [] := rfl

@[simp] theorem idsAll_append (xs ys : List Html) : idsAll (xs ++ ys) = idsAll xs ++ idsAll ys := by
  rw [idsAll, elementsAll_append, List.filterMap_append]
  rfl

@[simp] theorem idsAll_piece (p : Piece) (rest : List Html) :
    idsAll (.piece p :: rest) = idsAll rest := rfl

@[simp] theorem idsAll_element (tag : String) (attrs : List Attr) (body rest : List Html) :
    idsAll (.element tag attrs body :: rest) =
      (attr? "id" attrs).toList ++ (idsAll body ++ idsAll rest) := by
  have own : (Html.element tag attrs body).id? = attr? "id" attrs := rfl
  rw [← idsAll_append, idsAll, idsAll, elementsAll_cons, elements_element, List.cons_append,
    List.filterMap_cons, elementsAll_append, own]
  cases attr? "id" attrs <;> rfl

@[simp] theorem idsAll_void (tag : String) (attrs : List Attr) (rest : List Html) :
    idsAll (.void tag attrs :: rest) = (attr? "id" attrs).toList ++ idsAll rest := by
  have own : (Html.void tag attrs).id? = attr? "id" attrs := rfl
  rw [idsAll, idsAll, elementsAll_cons, elements_void, List.cons_append, List.nil_append,
    List.filterMap_cons, own]
  cases attr? "id" attrs <;> rfl

theorem idsAll_flatMap {α : Type} (f : α → List Html) (as : List α) :
    idsAll (as.flatMap f) = as.flatMap fun a => idsAll (f a) := by
  induction as with
  | nil => rfl
  | cons a rest ih => rw [List.flatMap_cons, List.flatMap_cons, idsAll_append, ih]

end Html

namespace Template

open Html

/-! ## Fragments in a template -/

mutual

/-- The template puts the variable out, whatever its conditions are. -/
def Node.shows (name : String) : Node → Bool
  | .text _ => false
  | .slot (.name n) => n == name
  | .slot _ => false
  | .element _ _ body => Node.showsAny name body
  | .void _ _ => false
  | .choose _ yes no => Node.showsAny name yes && Node.showsAny name no
  | .each _ _ _ => false

/-- One of the templates puts the variable out. -/
def Node.showsAny (name : String) : List Node → Bool
  | [] => false
  | n :: rest => n.shows name || Node.showsAny name rest

end

section Shown

variable {name : String} {scope : Scope} {fragment : List Html}

mutual

theorem fill_sublist (bound : scope.lookup name = some (.fragment fragment)) : ∀ (n : Node),
    n.shows name = true → ∀ {hs : List Html}, Node.fill scope true n = .ok hs →
    (elementsAll fragment).Sublist (elementsAll hs)
  | .text s, shows, hs, h => by cases shows
  | .slot e, shows, hs, h => by
    obtain ⟨b, evaluated, rfl⟩ := map_eq_ok.mp h
    cases e with
    | name n =>
      obtain rfl : n = name := by simpa [Node.shows] using shows
      simp only [Expr.eval, bound, Option.getD_some, Except.ok.injEq] at evaluated
      subst evaluated
      exact List.Sublist.refl _
    | _ => cases shows
  | .element tag specs body, shows, hs, h => by
    obtain ⟨attrs, filled, h⟩ := bind_eq_ok.mp h
    obtain ⟨inner, filledBody, h⟩ := bind_eq_ok.mp h
    cases h
    rw [elementsAll_cons, elements_element, elementsAll_nil, List.append_nil]
    exact (fillAll_sublist bound body shows filledBody).cons _
  | .void tag specs, shows, hs, h => by cases shows
  | .choose c yes no, shows, hs, h => by
    simp only [Node.shows, Bool.and_eq_true] at shows
    obtain ⟨holds, -, h⟩ := bind_eq_ok.mp h
    cases holds with
    | false => exact fillAll_sublist bound no shows.2 h
    | true => exact fillAll_sublist bound yes shows.1 h
  | .each _ _ _, shows, hs, h => by cases shows

/-- **What a template puts out.** The elements of a fragment that is put out in all cases are found
in the filled template, in their order. -/
theorem fillAll_sublist (bound : scope.lookup name = some (.fragment fragment)) :
    ∀ (ns : List Node), Node.showsAny name ns = true → ∀ {hs : List Html},
    Node.fillAll scope true ns = .ok hs → (elementsAll fragment).Sublist (elementsAll hs)
  | [], shows, hs, h => by cases shows
  | n :: rest, shows, hs, h => by
    obtain ⟨first, filled, h⟩ := bind_eq_ok.mp h
    obtain ⟨others, filledRest, h⟩ := bind_eq_ok.mp h
    cases h
    rw [elementsAll_append]
    rcases Bool.or_eq_true _ _ |>.mp shows with shows | shows
    · exact (fill_sublist bound n shows filled).trans (List.sublist_append_left _ _)
    · exact (fillAll_sublist bound rest shows filledRest).trans (List.sublist_append_right _ _)

end

end Shown

/-! ## Elements of a filled template -/

mutual

/-- The elements of a template, each with its tag and attributes. -/
def Node.parts : Node → List (String × List AttrSpec)
  | .text _ => []
  | .slot _ => []
  | .element tag specs body => (tag, specs) :: Node.partsAll body
  | .void tag specs => [(tag, specs)]
  | .choose _ yes no => Node.partsAll yes ++ Node.partsAll no
  | .each _ _ body => Node.partsAll body

/-- The elements of templates. -/
def Node.partsAll : List Node → List (String × List AttrSpec)
  | [] => []
  | n :: rest => n.parts ++ Node.partsAll rest

end

/-- The element is one of some elements of a template, filled with some variables. -/
def Fills (parts : List (String × List AttrSpec)) (x : Html) : Prop :=
  ∃ part ∈ parts, x.tag? = some part.1 ∧
    ∃ scope, fillAttrs scope true part.2 = .ok x.attrs

theorem Fills.mono {parts more : List (String × List AttrSpec)} {x : Html} (h : Fills parts x)
    (sub : ∀ part ∈ parts, part ∈ more) : Fills more x := by
  obtain ⟨part, mem, filled⟩ := h
  exact ⟨part, sub part mem, filled⟩

/-- The elements of the fragments among some variables. -/
def fragmentElements (scope : Scope) : List Html :=
  scope.flatMap fun e => match e.2 with
    | .fragment body => elementsAll body
    | _ => []

theorem mem_fragmentElements {scope : Scope} {e : Expr} {b : Binding} (h : e.eval scope = .ok b)
    {x : Html} (hx : x ∈ elementsAll (b.html true)) : x ∈ fragmentElements scope := by
  cases b with
  | undefined => cases hx
  | value v => cases hx
  | fragment body =>
    -- only a variable stands for a fragment
    cases e with
    | name n =>
      simp only [Expr.eval, Except.ok.injEq] at h
      cases found : scope.lookup n with
      | none => simp [found] at h
      | some bound =>
        obtain ⟨before, after, split, -⟩ := List.lookup_eq_some_iff.mp found
        simp only [found, Option.getD_some] at h
        subst h
        exact List.mem_flatMap.mpr ⟨(n, .fragment body), by simp [split], hx⟩
    | member of n =>
      obtain ⟨b', -, h⟩ := bind_eq_ok.mp h
      split at h
      · cases h
      · rename_i v _
        cases field : v.field? n <;> simp [field] at h
    | label of =>
      obtain ⟨b', -, h⟩ := bind_eq_ok.mp h
      cases h
    | sentences of =>
      obtain ⟨b', -, h⟩ := bind_eq_ok.mp h
      split at h
      · obtain ⟨ps, -, h⟩ := bind_eq_ok.mp h
        cases h
      · cases h

theorem concatM_mem {α : Type} {f : α → Except Fault (List Html)} {items : List α} {hs : List Html}
    (h : concatM f items = .ok hs) {x : Html} (hx : x ∈ elementsAll hs) :
    ∃ item ∈ items, ∃ part, f item = .ok part ∧ x ∈ elementsAll part := by
  induction items generalizing hs with
  | nil => cases h; cases hx
  | cons item rest ih =>
    obtain ⟨first, filled, h⟩ := bind_eq_ok.mp h
    obtain ⟨others, filledRest, h⟩ := bind_eq_ok.mp h
    cases h
    rw [elementsAll_append, List.mem_append] at hx
    rcases hx with hx | hx
    · exact ⟨item, List.mem_cons_self, first, filled, hx⟩
    · obtain ⟨other, mem, part, filledPart, hx⟩ := ih filledRest hx
      exact ⟨other, List.mem_cons_of_mem item mem, part, filledPart, hx⟩

mutual

theorem fill_mem : ∀ (n : Node) {scope : Scope} {hs : List Html},
    Node.fill scope true n = .ok hs → ∀ x ∈ elementsAll hs,
      Fills n.parts x ∨ x ∈ fragmentElements scope
  | .text s, scope, hs, h, x, hx => by
    cases h
    cases hx
  | .slot e, scope, hs, h, x, hx => by
    obtain ⟨b, evaluated, rfl⟩ := map_eq_ok.mp h
    exact Or.inr (mem_fragmentElements evaluated hx)
  | .element tag specs body, scope, hs, h, x, hx => by
    obtain ⟨attrs, filled, h⟩ := bind_eq_ok.mp h
    obtain ⟨inner, filledBody, h⟩ := bind_eq_ok.mp h
    cases h
    rw [elementsAll_cons, elements_element, elementsAll_nil, List.append_nil] at hx
    rcases List.mem_cons.mp hx with rfl | hx
    · exact Or.inl ⟨(tag, specs), List.mem_cons_self, rfl, scope, filled⟩
    · rcases fillAll_mem body filledBody x hx with inside | ofFragment
      · exact Or.inl (inside.mono fun part mem => List.mem_cons_of_mem _ mem)
      · exact Or.inr ofFragment
  | .void tag specs, scope, hs, h, x, hx => by
    obtain ⟨attrs, filled, h⟩ := bind_eq_ok.mp h
    cases h
    obtain rfl := List.mem_singleton.mp hx
    exact Or.inl ⟨(tag, specs), List.mem_cons_self, rfl, scope, filled⟩
  | .choose c yes no, scope, hs, h, x, hx => by
    obtain ⟨holds, -, h⟩ := bind_eq_ok.mp h
    cases holds with
    | false =>
      rcases fillAll_mem no h x hx with inside | ofFragment
      · exact Or.inl (inside.mono fun part mem => List.mem_append_right _ mem)
      · exact Or.inr ofFragment
    | true =>
      rcases fillAll_mem yes h x hx with inside | ofFragment
      · exact Or.inl (inside.mono fun part mem => List.mem_append_left _ mem)
      · exact Or.inr ofFragment
  | .each name e body, scope, hs, h, x, hx => by
    obtain ⟨b, -, h⟩ := bind_eq_ok.mp h
    obtain ⟨items, -, h⟩ := bind_eq_ok.mp h
    obtain ⟨v, -, part, filled, hx⟩ := concatM_mem h hx
    -- the variable of the loop stands for a value, which has no elements
    exact fillAll_mem body filled x hx

/-- **What a filled template is made of.** Its elements are those of the template or come from a
fragment. -/
theorem fillAll_mem : ∀ (ns : List Node) {scope : Scope} {hs : List Html},
    Node.fillAll scope true ns = .ok hs → ∀ x ∈ elementsAll hs,
      Fills (Node.partsAll ns) x ∨ x ∈ fragmentElements scope
  | [], scope, hs, h, x, hx => by
    cases h
    cases hx
  | n :: rest, scope, hs, h, x, hx => by
    obtain ⟨first, filled, h⟩ := bind_eq_ok.mp h
    obtain ⟨others, filledRest, h⟩ := bind_eq_ok.mp h
    cases h
    rw [elementsAll_append, List.mem_append] at hx
    rcases hx with hx | hx
    · rcases fill_mem n filled x hx with inside | ofFragment
      · exact Or.inl (inside.mono fun part mem => List.mem_append_left _ mem)
      · exact Or.inr ofFragment
    · rcases fillAll_mem rest filledRest x hx with inside | ofFragment
      · exact Or.inl (inside.mono fun part mem => List.mem_append_right _ mem)
      · exact Or.inr ofFragment

end

theorem fragmentElements_values {scope : Scope} (values : ValueScope scope) :
    fragmentElements scope = [] := by
  refine List.flatMap_eq_nil_iff.mpr fun e he => ?_
  obtain ⟨v, isValue⟩ := values e he
  rw [isValue]

theorem fillAll_noIds (ns : List Node)
    (anonymous : (Node.partsAll ns).all (fun part => part.2.all (AttrSpec.lacks "id")) = true)
    {scope : Scope} (values : ValueScope scope) {hs : List Html}
    (h : Node.fillAll scope true ns = .ok hs) : idsAll hs = [] := by
  refine List.filterMap_eq_nil_iff.mpr fun x hx => ?_
  rcases fillAll_mem ns h x hx with ⟨part, mem, -, scope', filled⟩ | ofFragment
  · exact fillAttrs_lacks "id" (List.all_eq_true.mp anonymous part mem) filled
  · rw [fragmentElements_values values] at ofFragment
    cases ofFragment

end Template

/-- The standard theme keeps the elements of a fragment that a built-in template puts out. -/
theorem Theme.standard_sublist (template name : String) (body : List Template.Node)
    (listed : (template, body) ∈ Template.builtIn) (shows : Node.showsAny name body = true)
    {scope : Scope} {fragment hs : List Html}
    (bound : scope.lookup name = some (.fragment fragment))
    (h : Theme.standard.fill template scope = .ok hs) :
    (Html.elementsAll fragment).Sublist (Html.elementsAll hs) := by
  rw [Theme.standard_fill template body listed] at h
  exact fillAll_sublist bound body shows h

/-- An element that the standard theme draws with a built-in template is of a tag of the template
or comes from a fragment. -/
theorem Theme.standard_mem (template tag : String) (body : List Template.Node)
    (listed : (template, body) ∈ Template.builtIn)
    (other : ((Node.partsAll body).all fun part => part.1 != tag) = true)
    {scope : Scope} {hs : List Html} (h : Theme.standard.fill template scope = .ok hs) {x : Html}
    (hx : x ∈ Html.elementsAll hs) (isTag : x.tag? = some tag) : x ∈ fragmentElements scope := by
  rw [Theme.standard_fill template body listed] at h
  rcases fillAll_mem body h x hx with ⟨part, mem, isTag', -⟩ | ofFragment
  · rw [isTag] at isTag'
    have differs := List.all_eq_true.mp other part mem
    rw [← Option.some.inj isTag'] at differs
    simp at differs
  · exact ofFragment

end Formwright
