import Formwright.Check.Basic

/-!
# Outcomes

A computation ends with a value or a fault. This file takes such computations apart (`bind_eq_ok`,
`map_eq_ok`) and compares two of them: `Alike R x y` says that both end with the same fault, or both
end with values that `R` relates. It is preserved by every step of a computation, which is what the
comparison of two renderings rests on. `SameEnd` leaves the values out, and `FailsWith` says which
faults a single computation may end with, `Yields` which values. `FirstOf` says exactly which fault
it is: the first of all that are there. A check that passes is taken apart in the same way
(`Checked.map_eq_good`, `Checked.seq_eq_good`).
-/

namespace Formwright.Outcome

variable {ε α β γ δ : Type}

/-! ## Taking a computation apart -/

@[simp] theorem pure_eq (a : α) : (pure a : Except ε α) = .ok a := rfl

@[simp] theorem throw_eq (e : ε) : (throw e : Except ε α) = .error e := rfl

@[simp] theorem ok_bind (a : α) (f : α → Except ε β) : (Except.ok a >>= f) = f a := rfl

@[simp] theorem error_bind (e : ε) (f : α → Except ε β) : (Except.error e >>= f) = .error e := rfl

@[simp] theorem map_ok (f : α → β) (a : α) : f <$> (Except.ok a : Except ε α) = .ok (f a) := rfl

@[simp] theorem map_error (f : α → β) (e : ε) : f <$> (Except.error e : Except ε α) = .error e :=
  rfl

theorem bind_eq_ok {x : Except ε α} {f : α → Except ε β} {b : β} :
    x >>= f = .ok b ↔ ∃ a, x = .ok a ∧ f a = .ok b := by
  cases x with
  | error e => simp
  | ok a => simp

theorem map_eq_ok {x : Except ε α} {f : α → β} {b : β} :
    f <$> x = .ok b ↔ ∃ a, x = .ok a ∧ f a = b := by
  cases x with
  | error e => simp
  | ok a => simp

theorem exceptMap_eq_ok {x : Except ε α} {f : α → β} {b : β} :
    x.map f = .ok b ↔ ∃ a, x = .ok a ∧ f a = b := map_eq_ok

theorem exists_of_isOk {x : Except ε α} (h : x.isOk = true) : ∃ a, x = .ok a := by
  cases x with
  | error e => cases h
  | ok a => exact ⟨a, rfl⟩

theorem mapM_total {f : α → Except ε β} {as : List α} (each : ∀ a ∈ as, ∃ b, f a = .ok b) :
    ∃ bs, as.mapM f = .ok bs := by
  induction as with
  | nil => exact ⟨[], rfl⟩
  | cons a as ih =>
    obtain ⟨b, first⟩ := each a List.mem_cons_self
    obtain ⟨bs, rest⟩ := ih fun a' mem => each a' (List.mem_cons_of_mem a mem)
    exact ⟨b :: bs, by rw [List.mapM_cons, first, ok_bind, rest]; rfl⟩

/-! ## Two computations side by side -/

/-- Both computations end with the same fault, or both with values that are related. -/
inductive Alike (R : α → β → Prop) : Except ε α → Except ε β → Prop where
  | error (e : ε) : Alike R (.error e) (.error e)
  | ok {a : α} {b : β} (related : R a b) : Alike R (.ok a) (.ok b)

namespace Alike

variable {R : α → β → Prop} {S : γ → δ → Prop} {x : Except ε α} {y : Except ε β}

/-- A computation ends like itself if its value is related to itself. -/
theorem refl {R : α → α → Prop} {x : Except ε α} (h : ∀ a, x = .ok a → R a a) : Alike R x x := by
  cases x with
  | error e => exact .error e
  | ok a => exact .ok (h a rfl)

/-- The same holds of what is done next if it holds of related values. -/
theorem bind {f : α → Except ε γ} {g : β → Except ε δ} (h : Alike R x y)
    (next : ∀ a b, x = .ok a → y = .ok b → R a b → Alike S (f a) (g b)) :
    Alike S (x >>= f) (y >>= g) := by
  cases h with
  | error e => exact .error e
  | ok related => exact next _ _ rfl rfl related

/-- The same computation is followed by what ends alike. -/
theorem bind_same {x : Except ε α} {f : α → Except ε γ} {g : α → Except ε δ}
    (next : ∀ a, x = .ok a → Alike S (f a) (g a)) : Alike S (x >>= f) (x >>= g) := by
  cases x with
  | error e => exact .error e
  | ok a => exact next a rfl

theorem map {f : α → γ} {g : β → δ} (h : Alike R x y) (next : ∀ a b, R a b → S (f a) (g b)) :
    Alike S (f <$> x) (g <$> y) := by
  cases h with
  | error e => exact .error e
  | ok related => exact .ok (next _ _ related)

theorem mono {S : α → β → Prop} (h : Alike R x y) (weaken : ∀ a b, R a b → S a b) :
    Alike S x y := by
  cases h with
  | error e => exact .error e
  | ok related => exact .ok (weaken _ _ related)

/-- What is related is what the computations ended with. -/
theorem ended (h : Alike R x y) : Alike (fun a b => R a b ∧ x = .ok a ∧ y = .ok b) x y := by
  cases h with
  | error e => exact .error e
  | ok related => exact .ok ⟨related, rfl, rfl⟩

theorem exists_of_ok {a : α} (h : Alike R x y) (ended : x = .ok a) :
    ∃ b, y = .ok b ∧ R a b := by
  subst ended
  cases h with
  | ok related => exact ⟨_, rfl, related⟩

/-- Computations that end alike with equal values are the same. -/
theorem eq {y : Except ε α} (h : Alike (fun a b => a = b) x y) : x = y := by
  cases h with
  | error e => rfl
  | ok related => exact congrArg Except.ok related

/-- Computations that end alike up to a view have the same view. -/
theorem map_eq {f : α → γ} {g : β → γ} (h : Alike (fun a b => f a = g b) x y) :
    f <$> x = g <$> y := by
  cases h with
  | error e => rfl
  | ok related => exact congrArg Except.ok related

/-- Computations with the same view end alike up to the view. -/
theorem of_map_eq {f : α → γ} {g : β → γ} (same : x.map f = y.map g) :
    Alike (fun a b => f a = g b) x y := by
  cases x with
  | error e =>
    cases y with
    | error e' =>
      cases same
      exact .error e
    | ok b => cases same
  | ok a =>
    cases y with
    | error e => cases same
    | ok b => exact .ok (Except.ok.inj same)

end Alike

/-! ## How computations end -/

/-- Both computations end with the same fault, or both with some value. -/
abbrev SameEnd (x : Except ε α) (y : Except ε β) : Prop := Alike (fun _ _ => True) x y

namespace SameEnd

variable {x : Except ε α} {y : Except ε β} {z : Except ε γ}

theorem same (x : Except ε α) : SameEnd x x := Alike.refl fun _ _ => trivial

theorem symm (h : SameEnd x y) : SameEnd y x := by
  cases h with
  | error e => exact .error e
  | ok _ => exact .ok trivial

theorem trans (h : SameEnd x y) (h' : SameEnd y z) : SameEnd x z := by
  cases h with
  | error e =>
    cases h' with
    | error => exact .error e
  | ok _ =>
    cases h' with
    | ok _ => exact .ok trivial

theorem of_total (h : ∃ a, x = .ok a) (h' : ∃ b, y = .ok b) : SameEnd x y := by
  obtain ⟨a, rfl⟩ := h
  obtain ⟨b, rfl⟩ := h'
  exact .ok trivial

/-- Steps that do not fail do not change how a computation ends. -/
theorem bind_total {f : α → Except ε β} (total : ∀ a, ∃ b, f a = .ok b) :
    SameEnd (x >>= f) x := by
  cases x with
  | error e => exact .error e
  | ok a => exact of_total (total a) ⟨a, rfl⟩

/-- What is done next ends alike whatever the values are. -/
theorem andThen {f : α → Except ε γ} {g : β → Except ε δ} (h : SameEnd x y)
    (next : ∀ a b, SameEnd (f a) (g b)) : SameEnd (x >>= f) (y >>= g) := by
  cases h with
  | error e => exact .error e
  | ok _ => exact next _ _

/-- It makes no difference what is made of the values. -/
theorem thenReturn {f : α → γ} {g : β → δ} (h : SameEnd x y) :
    SameEnd (x >>= fun a => .ok (f a)) (y >>= fun b => .ok (g b)) :=
  h.andThen fun _ _ => .ok trivial

theorem error_iff (h : SameEnd x y) (e : ε) : x = .error e ↔ y = .error e := by
  cases h with
  | error e' => simp
  | ok _ => simp

theorem isOk_eq (h : SameEnd x y) : x.isOk = y.isOk := by
  cases h with
  | error e => rfl
  | ok _ => rfl

end SameEnd

/-- The computation ends with a value, or with a fault of some kind. -/
def FailsWith (P : ε → Prop) (x : Except ε α) : Prop := ∀ e, x = .error e → P e

namespace FailsWith

variable {P : ε → Prop} {x : Except ε α}

theorem ok (a : α) : FailsWith P (.ok a : Except ε α) := by
  intro e ended
  cases ended

theorem error {e : ε} (h : P e) : FailsWith P (.error e : Except ε α) := by
  rintro _ ⟨⟩
  exact h

instance [DecidablePred P] : Decidable (FailsWith P x) :=
  match x with
  | .ok a => isTrue (ok a)
  | .error e => decidable_of_iff (P e) ⟨error, fun fails => fails e rfl⟩

theorem of_total (h : ∃ a, x = .ok a) : FailsWith P x := by
  obtain ⟨a, rfl⟩ := h
  exact ok a

theorem bind {f : α → Except ε β} (h : FailsWith P x)
    (next : ∀ a, x = .ok a → FailsWith P (f a)) : FailsWith P (x >>= f) := by
  cases x with
  | error e => exact error (h e rfl)
  | ok a => exact next a rfl

theorem thenReturn {f : α → β} (h : FailsWith P x) : FailsWith P (x >>= fun a => .ok (f a)) :=
  h.bind fun a _ => ok (f a)

theorem map {f : α → β} (h : FailsWith P x) : FailsWith P (x.map f) := by
  cases x with
  | error e => exact error (h e rfl)
  | ok a => exact ok (f a)

theorem total (h : FailsWith (fun _ => False) x) : ∃ a, x = .ok a := by
  cases x with
  | error e => exact (h e rfl).elim
  | ok a => exact ⟨a, rfl⟩

theorem mono {Q : ε → Prop} (h : FailsWith P x) (weaken : ∀ e, P e → Q e) : FailsWith Q x :=
  fun e ended => weaken e (h e ended)

theorem mapM {f : α → Except ε β} {as : List α} (each : ∀ a ∈ as, FailsWith P (f a)) :
    FailsWith P (as.mapM f) := by
  induction as with
  | nil => exact ok []
  | cons a as ih =>
    rw [List.mapM_cons]
    refine (each a List.mem_cons_self).bind fun b _ => ?_
    exact (ih fun a' mem => each a' (List.mem_cons_of_mem a mem)).thenReturn

end FailsWith

/-- The computation ends with a fault, or with a value of some kind. -/
def Yields (P : α → Prop) (x : Except ε α) : Prop := ∀ a, x = .ok a → P a

namespace Yields

variable {P : α → Prop} {x : Except ε α}

theorem ok {a : α} (h : P a) : Yields P (.ok a : Except ε α) := by
  rintro _ ⟨⟩
  exact h

theorem error (e : ε) : Yields P (.error e : Except ε α) := by
  intro a ended
  cases ended

theorem bind {Q : β → Prop} {f : α → Except ε β} (h : Yields P x)
    (next : ∀ a, P a → Yields Q (f a)) : Yields Q (x >>= f) := by
  cases x with
  | error e => exact error e
  | ok a => exact next a (h a rfl)

theorem map {Q : β → Prop} {f : α → β} (h : Yields P x) (next : ∀ a, P a → Q (f a)) :
    Yields Q (x.map f) :=
  h.bind fun a holds => ok (next a holds)

/-- Only the last step matters if it yields the same whatever comes before. -/
theorem after {Q : β → Prop} {f : α → Except ε β} (next : ∀ a, Yields Q (f a)) :
    Yields Q (x >>= f) := by
  cases x with
  | error e => exact error e
  | ok a => exact next a

theorem mapM {Q : β → Prop} {f : α → Except ε β} {as : List α} (each : ∀ a ∈ as, Yields Q (f a)) :
    Yields (fun bs => ∀ b ∈ bs, Q b) (as.mapM f) := by
  induction as with
  | nil =>
    refine ok fun b mem => ?_
    cases mem
  | cons a as ih =>
    rw [List.mapM_cons]
    refine (each a List.mem_cons_self).bind fun b first => ?_
    refine (ih fun a' mem => each a' (List.mem_cons_of_mem a mem)).bind fun bs others => ok ?_
    exact List.forall_mem_cons.mpr ⟨first, others⟩

end Yields

/-- The computation ends with the first of some faults, and with a value if there are none. -/
inductive FirstOf : List ε → Except ε α → Prop where
  | none (a : α) : FirstOf [] (.ok a)
  | first (e : ε) (rest : List ε) : FirstOf (e :: rest) (.error e)

namespace FirstOf

variable {es es' : List ε} {x : Except ε α}

/-- Faults of what is done next come after those of what is done first. -/
theorem bind {f : α → Except ε β} (h : FirstOf es x)
    (next : ∀ a, x = .ok a → FirstOf es' (f a)) : FirstOf (es ++ es') (x >>= f) := by
  cases h with
  | none a => exact next a rfl
  | first e rest => exact .first e (rest ++ es')

theorem thenReturn {f : α → β} (h : FirstOf es x) : FirstOf es (x >>= fun a => .ok (f a)) := by
  have both := h.bind (f := fun a => .ok (f a)) fun a _ => .none (f a)
  rwa [List.append_nil] at both

theorem map {f : α → β} (h : FirstOf es x) : FirstOf es (f <$> x) := by
  cases h with
  | none a => exact .none (f a)
  | first e rest => exact .first e rest

theorem ok_iff (h : FirstOf es x) : (∃ a, x = .ok a) ↔ es = [] := by
  cases h with
  | none a => simp
  | first e rest => simp

theorem error_iff (h : FirstOf es x) (e : ε) : x = .error e ↔ ∃ rest, es = e :: rest := by
  cases h with
  | none a => simp
  | first e' rest => simp

end FirstOf

end Formwright.Outcome

/-! ## Checks that pass -/

namespace Formwright.Checked

variable {α β : Type}

theorem map_eq_good {g : α → β} {x : Checked α} {b : β} :
    g <$> x = .good b ↔ ∃ a, x = .good a ∧ g a = b := by
  cases x with
  | good a => exact ⟨fun h => ⟨a, rfl, Checked.good.inj h⟩, by rintro ⟨_, ⟨⟩, rfl⟩; rfl⟩
  | bad issues => exact ⟨nofun, nofun⟩

theorem seq_eq_good {g : Checked (α → β)} {x : Checked α} {b : β} :
    g <*> x = .good b ↔ ∃ g' a, g = .good g' ∧ x = .good a ∧ g' a = b := by
  cases g with
  | good g' =>
    cases x with
    | good a => exact ⟨fun h => ⟨g', a, rfl, rfl, Checked.good.inj h⟩,
        by rintro ⟨_, _, ⟨⟩, ⟨⟩, rfl⟩; rfl⟩
    | bad issues => exact ⟨nofun, nofun⟩
  | bad issues =>
    cases x with
    | good a => exact ⟨nofun, nofun⟩
    | bad more => exact ⟨nofun, nofun⟩

theorem all_good (values : List α) : Checked.all (values.map .good) = .good values := by
  induction values with
  | nil => rfl
  | cons v rest ih =>
    rw [List.map_cons, Checked.all, ih]
    rfl

end Formwright.Checked
