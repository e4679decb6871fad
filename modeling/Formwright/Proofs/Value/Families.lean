import Formwright.Proofs.Text.OpenText
import Formwright.Value.Entries

/-!
# Families of values

What is drawn in a row depends on the index of the row. Seen for all indices at once, values, lists
and computations are families; the families here are built alike for every index, and differ only in
texts that print it.

- `Fixed`, `Perhaps`, `Each`, `Keyed`, `Uniform`: families that are built alike.
- `Fits`: families of values that are seen by templates.
-/

namespace Formwright

/-! ## Families -/

section Families

variable {α β κ : Type}

/-- The same for every index. -/
def Fixed (x : Index → α) : Prop := ∃ a, x = fun _ => a

/-- Nothing for every index, or something for every index. -/
inductive Perhaps (R : (Index → α) → Prop) : (Index → Option α) → Prop where
  | none : Perhaps R fun _ => .none
  | some {a : Index → α} (h : R a) : Perhaps R fun i => .some (a i)

/-- As many members for every index. -/
inductive Each (R : (Index → α) → Prop) : (Index → List α) → Prop where
  | nil : Each R fun _ => []
  | cons {a : Index → α} {as : Index → List α} (first : R a) (rest : Each R as) :
    Each R fun i => a i :: as i

/-- An entry with the same key for every index. -/
inductive Keyed (R : κ → (Index → β) → Prop) : (Index → κ × β) → Prop where
  | entry {key : κ} {v : Index → β} (h : R key v) : Keyed R fun i => (key, v i)

/-- The same fault for every index, or a value for every index. -/
inductive Uniform (R : (Index → α) → Prop) : (Index → Except Fault α) → Prop where
  | error (e : Fault) : Uniform R fun _ => .error e
  | ok {a : Index → α} (h : R a) : Uniform R fun i => .ok (a i)

theorem Fixed.const (a : α) : Fixed fun _ => a := ⟨a, rfl⟩

variable {R : (Index → α) → Prop} {S : (Index → β) → Prop}

theorem Perhaps.cases {x : Index → Option α} (h : Perhaps R x) :
    (∀ i, x i = .none) ∨ ∃ a, R a ∧ ∀ i, x i = .some (a i) := by
  cases h with
  | none => exact .inl fun _ => rfl
  | some h => exact .inr ⟨_, h, fun _ => rfl⟩

namespace Uniform

theorem const {x : Except Fault α} (h : ∀ a, x = .ok a → R fun _ => a) : Uniform R fun _ => x := by
  cases x with
  | error e => exact error e
  | ok a => exact ok (h a rfl)

theorem bind {x : Index → Except Fault α} {f : Index → α → Except Fault β} (h : Uniform R x)
    (next : ∀ a, R a → Uniform S fun i => f i (a i)) : Uniform S fun i => x i >>= f i := by
  cases h with
  | error e => exact error e
  | ok h => exact next _ h

/-- What is the same for every index is followed by what is built alike. -/
theorem bind_const {x : Except Fault α} {f : Index → α → Except Fault β}
    (next : ∀ a, x = .ok a → Uniform S fun i => f i a) : Uniform S fun i => x >>= f i := by
  cases x with
  | error e => exact error e
  | ok a => exact next a rfl

theorem map {x : Index → Except Fault α} {f : Index → α → β} (h : Uniform R x)
    (next : ∀ a, R a → S fun i => f i (a i)) : Uniform S fun i => f i <$> x i := by
  cases h with
  | error e => exact error e
  | ok h => exact ok (next _ h)

theorem mono {R' : (Index → α) → Prop} {x : Index → Except Fault α} (h : Uniform R x)
    (weaken : ∀ a, R a → R' a) : Uniform R' x := by
  cases h with
  | error e => exact error e
  | ok h => exact ok (weaken _ h)

theorem exists_of_ok {x : Index → Except Fault α} (h : Uniform R x) {i : Index} {b : α}
    (ended : x i = .ok b) : ∃ a, R a ∧ (∀ j, x j = .ok (a j)) ∧ a i = b := by
  cases h with
  | error e => cases ended
  | ok h => exact ⟨_, h, fun _ => rfl, Except.ok.inj ended⟩

end Uniform

namespace Each

theorem const {as : List α} (h : ∀ a ∈ as, R fun _ => a) : Each R fun _ => as := by
  induction as with
  | nil => exact nil
  | cons a as ih =>
    exact cons (h a List.mem_cons_self) (ih fun b mem => h b (List.mem_cons_of_mem a mem))

theorem append {as bs : Index → List α} (h : Each R as) (h' : Each R bs) :
    Each R fun i => as i ++ bs i := by
  induction h with
  | nil => exact h'
  | cons first _ ih => exact cons first ih

theorem map {as : Index → List α} {f : Index → α → β} (h : Each R as)
    (next : ∀ a, R a → S fun i => f i (a i)) : Each S fun i => (as i).map (f i) := by
  induction h with
  | nil => exact nil
  | cons first _ ih => exact cons (next _ first) ih

theorem isEmpty {as : Index → List α} (h : Each R as) : Fixed fun i => (as i).isEmpty := by
  cases h with
  | nil => exact Fixed.const true
  | cons => exact Fixed.const false

variable {P : κ → (Index → β) → Prop}

/-- An entry in front, with a key of its own. -/
theorem entry {key : κ} {v : Index → β} {es : Index → List (κ × β)} (h : P key v)
    (rest : Each (Keyed P) es) : Each (Keyed P) fun i => (key, v i) :: es i :=
  cons (.entry h) rest

theorem lookup [BEq κ] [LawfulBEq κ] {es : Index → List (κ × β)} (h : Each (Keyed P) es)
    (key : κ) : Perhaps (P key) fun i => (es i).lookup key := by
  induction h with
  | nil => exact .none
  | cons first _ ih =>
    obtain @⟨name, v, h⟩ := first
    by_cases same : (key == name) = true
    · rw [← beq_iff_eq.mp same] at h
      simpa [List.lookup_cons, same] using Perhaps.some h
    · simpa [List.lookup_cons, same] using ih

end Each

end Families

/-! ## Values -/

/-- How a value may depend on the index: not at all, as a text, as a record with such texts, as a
list of such records, or as a table with such texts. -/
inductive Shape where
  | fixed
  | leaf
  | record
  | records
  | table
  deriving DecidableEq, Repr

/-- The attributes of records are texts, and choices are the same for every index. -/
def Shape.ofMember (name : String) : Shape := if name == "options" then .fixed else .leaf

/-- The value depends on the index as the shape says. -/
inductive Fits : Shape → (Index → Value) → Prop where
  | fixed (shape : Shape) (v : Value) : Fits shape fun _ => v
  | text {s : Index → String} (h : Prints s) : Fits .leaf fun i => .text (s i)
  | markup {s : Index → String} (h : Prints s) : Fits .leaf fun i => .markup (s i)
  | object {attributes : Index → List (String × Value)}
      (h : Each (Keyed fun name => Fits (.ofMember name)) attributes) :
    Fits .record fun i => .object (attributes i)
  | list {items : Index → List Value} (h : Each (Fits .record) items) :
    Fits .records fun i => .list (items i)
  | table {entries : Index → List (Value × Value)} (h : Each (Keyed fun _ => Fits .leaf) entries) :
    Fits .table fun i => .table (entries i)

namespace Fits

variable {shape : Shape} {v : Index → Value}

theorem of_fixed (h : Fits .fixed v) (shape : Shape) : Fits shape v := by
  cases h
  exact fixed shape _

theorem isNone (h : Fits shape v) : Fixed fun i => (v i).isNone := by
  cases h <;> exact Fixed.const _

theorem isTrue (h : Fits shape v) : Fixed fun i => (v i).isTrue := by
  have text : ∀ {s : Index → String}, Prints s → Fixed fun i => s i != "" := by
    intro s prints
    rcases prints.eq_empty with empty | nonempty
    · exact ⟨false, funext fun i => by simp [empty]⟩
    · exact ⟨true, funext fun i => by simp [nonempty]⟩
  have members : ∀ {α : Type} {R : (Index → α) → Prop} {as : Index → List α}, Each R as →
      Fixed fun i => !(as i).isEmpty := by
    intro α R as h
    obtain ⟨b, empty⟩ := h.isEmpty
    exact ⟨!b, funext fun i => congrArg (!·) (congrFun empty i)⟩
  cases h with
  | fixed => exact Fixed.const _
  | text h => exact text h
  | markup h => exact text h
  | object h => exact Fixed.const true
  | list h => exact members h
  | table h => exact members h

theorem toText (h : Fits .leaf v) : Prints fun i => (v i).toText := by
  cases h with
  | fixed => exact Prints.const _
  | text h => exact h
  | markup h => exact h

theorem piece (h : Fits .leaf v) : Prints fun i => (v i).piece.write := by
  cases h with
  | fixed => exact Prints.const _
  | text h => exact h.escape
  | markup h => exact h

theorem named? {entries : Index → List (Value × Value)}
    (h : Each (Keyed fun _ => Fits .leaf) entries) (name : String) :
    Perhaps (Fits .leaf) fun i => Value.named? (entries i) name := by
  induction h with
  | nil => exact .none
  | cons first _ ih =>
    obtain @⟨key, v, h⟩ := first
    by_cases found : key.isText name = true
    · simpa [Value.named?, found] using Perhaps.some h
    · simpa [Value.named?, found] using ih

/-- The fields of records and tables. -/
theorem field? (h : Fits shape v) {name : String}
    (has : shape = .record ∨ shape = .table ∧ name ≠ "options") :
    Perhaps (Fits (.ofMember name)) fun i => (v i).field? name := by
  cases h with
  | fixed shape w =>
    show Perhaps _ fun _ => w.field? name
    cases w.field? name with
    | none => exact .none
    | some field => exact .some (fixed _ field)
  | text => simp at has
  | markup => simp at has
  | list => simp at has
  | object h => exact h.lookup name
  | table h =>
    have other : (name == "options") = false := by simpa using has
    rw [Shape.ofMember, other]
    exact named? h name

/-- Records in a list, or the members of what is the same for every index. -/
theorem items? {member : Shape} (h : Fits shape v)
    (has : shape = .records ∧ member = .record ∨ shape = .fixed) :
    Perhaps (Each (Fits member)) fun i => (v i).items? := by
  cases h with
  | fixed shape w =>
    show Perhaps _ fun _ => w.items?
    cases w.items? with
    | none => exact .none
    | some items => exact .some (Each.const fun v _ => fixed _ v)
  | text => simp at has
  | markup => simp at has
  | object => simp at has
  | table => simp at has
  | list h =>
    have isRecord : member = .record := by simpa using has
    exact isRecord ▸ .some h

end Fits

end Formwright
