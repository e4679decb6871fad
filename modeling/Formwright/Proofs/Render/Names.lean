import Formwright.Proofs.Render.Controls
import Formwright.Proofs.Render.Field
import Formwright.Proofs.Render.Walk
import Formwright.Proofs.Text.Numerals

/-!
# Names in a frame

The names of a frame's controls are its prefix with keys in brackets. The indices of rows are
numerals and the index of the template is no numeral, so the prefix of a row is never the beginning
of a name in another row. Among the names of a row's own inputs, `id` and `_destroy` are left to the
row itself.

- `Rows.index_unique`: a name belongs to one row.
- `Node.keepsNames`: the nodes that leave the naming to the frame.
- `Scoped`, `input_scoped`: what is drawn in a frame is named by its prefix.
-/

namespace Formwright

open Html Outcome

/-! ## Indices of rows -/

namespace Rows

/-- The indices of the rows of a relation in order, and that of the template. -/
def indices (relation : String) (count : Nat) : List String :=
  (List.range count).map toString ++ [sentinel relation]

theorem sentinel_head (relation : String) :
    ∃ rest, (sentinel relation).toList = 'N' :: rest := by
  obtain ⟨name, parts⟩ : ∃ name, sentinel relation = "NEW_" ++ name :=
    ⟨_, by rw [sentinel, String.append_assoc]⟩
  refine ⟨"EW_".toList ++ name.toList, ?_⟩
  rw [parts, String.toList_append]
  rfl

end Rows

namespace FieldScope

theorem toList_elementName (s : FieldScope) (key : String) :
    (s.elementName key).toList = s.namePrefix.toList ++ '[' :: (key.toList ++ [']']) := by
  simp [elementName]

/-- What the names of all rows of a relation start with. -/
def rowsPrefix (s : FieldScope) (relation : String) : List Char :=
  s.namePrefix.toList ++ '[' :: ((rowsKey relation).toList ++ [']', '['])

theorem toList_nested (s : FieldScope) (relation index : String) :
    (s.nested relation index).namePrefix.toList =
      s.rowsPrefix relation ++ (index.toList ++ [']']) := by
  simp [nested, rowsPrefix]

end FieldScope

namespace Rows

open FieldScope

theorem takeWhile_bracket {xs : List Char} (h : ']' ∉ xs) (ys : List Char) :
    (xs ++ ']' :: ys).takeWhile (· != ']') = xs := by
  induction xs with
  | nil => rfl
  | cons x xs ih =>
    have other : x ≠ ']' := fun eq => h (eq ▸ List.mem_cons_self)
    rw [List.cons_append, List.takeWhile_cons_of_pos (by simpa using other),
      ih fun mem => h (List.mem_cons_of_mem x mem)]

theorem bracket_notMem_numeral (n : Nat) : ']' ∉ (toString n).toList := fun mem =>
  absurd (Text.isDigit_of_mem_numeral mem) (by decide)

/-- No numeral begins like the index of the template. -/
theorem numeral_ne_sentinel {relation : String} {n : Nat} (rest rest' : List Char) :
    (toString n).toList ++ rest ≠ (sentinel relation).toList ++ rest' := by
  obtain ⟨ch, digits, numeral, isDigit⟩ := Text.numeral_head n
  obtain ⟨others, start⟩ := sentinel_head relation
  intro same
  rw [numeral, start, List.cons_append, List.cons_append, List.cons.injEq] at same
  rw [same.1] at isDigit
  exact absurd isDigit (by decide)

/-- **Rows apart.** A name starts with the prefix of one row at most. -/
theorem index_unique {s : FieldScope} {relation : String} {count : Nat} {i j : String}
    (hi : i ∈ indices relation count) (hj : j ∈ indices relation count) {name : List Char}
    (startsI : (s.nested relation i).namePrefix.toList <+: name)
    (startsJ : (s.nested relation j).namePrefix.toList <+: name) : i = j := by
  rw [toList_nested] at startsI startsJ
  obtain ⟨restI, eqI⟩ := startsI
  obtain ⟨restJ, eqJ⟩ := startsJ
  have same : i.toList ++ ']' :: restI = j.toList ++ ']' :: restJ := by
    have both := eqI.trans eqJ.symm
    simp only [List.append_assoc, List.singleton_append] at both
    exact List.append_cancel_left both
  simp only [indices, List.mem_append, List.mem_map, List.mem_range, List.mem_singleton] at hi hj
  rcases hi with ⟨m, -, rfl⟩ | rfl <;> rcases hj with ⟨n, -, rfl⟩ | rfl
  · have digits := congrArg (List.takeWhile (· != ']')) same
    rw [takeWhile_bracket (bracket_notMem_numeral m), takeWhile_bracket (bracket_notMem_numeral n)]
      at digits
    exact String.toList_inj.mp digits
  · exact absurd same (numeral_ne_sentinel _ _)
  · exact absurd same.symm (numeral_ne_sentinel _ _)
  · rfl

end Rows

/-! ## Controls named in a frame -/

/-- The node leaves the naming to the frame: no option names a control, no field is called like the
inputs of a row, and no content is raw. -/
def Form.Node.keepsNames : Form.Node → Bool
  | .input field o =>
    field != "id" && field != "_destroy" && o.htmlOptions.all fun a => a.1 != "name"
  | .content _ isMarkup => !isMarkup
  | _ => true

/-- The options of an input set no attribute of the name. -/
def Form.Node.Leaves (name : String) : Form.Node → Prop
  | .input _ o => Drawing.Leaves o name
  | _ => True

/-- The controls have names with a prefix. -/
def Prefixed (namePrefix : String) (hs : List Html) : Prop :=
  ∀ x ∈ controlsAll hs, ∃ rest, x.name? = some (namePrefix ++ "[" ++ rest)

/-- The controls have names with a prefix, and no input has a name of a row's own inputs. -/
def Scoped (namePrefix : String) (hs : List Html) : Prop :=
  ∀ x ∈ controlsAll hs, ∃ rest, x.name? = some (namePrefix ++ "[" ++ rest) ∧
    (x.isInput = true → rest ≠ "id]" ∧ rest ≠ "_destroy]")

theorem Scoped.prefixed {namePrefix : String} {hs : List Html} (h : Scoped namePrefix hs) :
    Prefixed namePrefix hs := fun x hx =>
  let ⟨rest, named, _⟩ := h x hx
  ⟨rest, named⟩

/-- A name of a row's own inputs has no further bracket. -/
theorem ne_own_of_bracket {rest : String} (h : '[' ∈ rest.toList) :
    rest ≠ "id]" ∧ rest ≠ "_destroy]" := by
  constructor
  · rintro rfl
    exact absurd h (by decide)
  · rintro rfl
    exact absurd h (by decide)

namespace Render.Renderer

open Form

variable {r : Renderer} {c : Context} {f : Frame} {field : String} {o : FieldOptions}

/-- An item is put around the markup of its control. -/
theorem item_drawn (standard : r.drawing.theme = .standard) (f : Frame) (field : String)
    (o : FieldOptions) (kind : String) (desc : Descriptor) :
    ∃ around, Template.Around around [] ∧
      ∀ html, r.item f field o kind ⟨desc, html⟩ = .ok (around html) := by
  obtain ⟨around, isAround, drawn⟩ := Template.item_around (itemClass kind desc)
    (f.scope.elementId field) desc.id desc.label desc.required desc.visible o.ajax
  refine ⟨around, isAround, fun html => ?_⟩
  unfold Renderer.item
  rw [standard]
  exact drawn html

theorem item_controls (standard : r.drawing.theme = .standard) {kind : String} {shown : Shown}
    {html : List Html} (h : r.item f field o kind shown = .ok html) :
    controlsAll html = controlsAll shown.html := by
  obtain ⟨around, isAround, drawn⟩ :=
    item_drawn standard f field o kind shown.descriptor
  rw [drawn] at h
  cases h
  rw [isAround.controls, List.append_nil]

theorem describe_name {key : String} {desc : Descriptor}
    (h : r.describe c f field key o = .ok desc) : desc.name = f.scope.elementName key := by
  obtain ⟨errors, -, h⟩ := bind_eq_ok.mp h
  cases h
  rfl

theorem elementName_eq (s : FieldScope) (key : String) :
    s.elementName key = s.namePrefix ++ "[" ++ (key ++ "]") := by
  simp [FieldScope.elementName, String.append_assoc]

theorem leaves_of_keepsNames (keeps : (Form.Node.input field o).keepsNames = true) :
    Drawing.Leaves o "name" := by
  simp only [Form.Node.keepsNames, Bool.and_eq_true, List.all_eq_true] at keeps
  exact fun a ha => by simpa using keeps.2 a ha

/-- The controls of an input are named by its key; a check box or a text input of another key than
the field's name is named further. -/
theorem drawn_named (standard : r.drawing.theme = .standard) (unset : Drawing.Leaves o "name")
    {shown : Shown} (h : Drawn r c f field o shown) :
    ∀ x ∈ controlsAll shown.html, ∃ rest,
      x.name? = some (f.scope.elementName (r.inputKey f.model field o) ++ rest) ∧
      (x.isInput = true → '[' ∈ rest.toList ∨ rest = "" ∧ r.inputKey f.model field o = field) := by
  intro x hx
  cases h with
  | many key described drawn =>
    obtain ⟨rest, named⟩ := Drawing.many_names standard rfl drawn x hx
    refine ⟨"[" ++ rest, ?_, fun _ => Or.inl (by simp)⟩
    rw [named, describe_name described, key, String.append_assoc]
  | single described drawn =>
    obtain ⟨named, noInput⟩ := Drawing.select_names standard unset drawn x hx
    refine ⟨"", ?_, fun isInput => absurd isInput (by rw [noInput]; simp)⟩
    rw [String.append_empty, ← describe_name described]
    exact named
  | scalar key described drawn =>
    obtain ⟨bare, drawnBare, same⟩ := Drawing.withErrors_controls standard drawn
    rw [same] at hx
    rcases Drawing.bare_names standard unset drawnBare x hx with named | ⟨noInput, unit, named⟩
    · refine ⟨"", ?_, fun _ => Or.inr ⟨rfl, key⟩⟩
      rw [named, describe_name described, key, String.append_empty]
    · refine ⟨"[" ++ unit ++ "]", ?_, fun isInput => ?_⟩
      · rw [named, describe_name described, key]
        simp [String.append_assoc]
      · rw [noInput] at isInput
        cases isInput

theorem input_named (standard : r.drawing.theme = .standard) (unset : Drawing.Leaves o "name")
    {out : Output} (h : r.input c f field o = .ok out) :
    ∀ x ∈ controlsAll out.html, ∃ rest,
      x.name? = some (f.scope.elementName (r.inputKey f.model field o) ++ rest) ∧
      (x.isInput = true → '[' ∈ rest.toList ∨ rest = "" ∧ r.inputKey f.model field o = field) := by
  obtain ⟨kind, shown, drawn, item⟩ := input_inv h
  rw [item_controls standard item]
  exact drawn_named standard unset drawn

/-- The controls of an input have names in its frame that are no names of a row's own inputs. -/
theorem input_scoped (standard : r.drawing.theme = .standard)
    (keeps : (Form.Node.input field o).keepsNames = true) {out : Output}
    (h : r.input c f field o = .ok out) : Scoped f.scope.namePrefix out.html := by
  intro x hx
  obtain ⟨rest, named, isOwn⟩ := input_named standard (leaves_of_keepsNames keeps) h x hx
  refine ⟨r.inputKey f.model field o ++ "]" ++ rest, ?_, fun isInput => ?_⟩
  · rw [named, elementName_eq]
    simp [String.append_assoc]
  · rcases isOwn isInput with bracket | ⟨rfl, key⟩
    · exact ne_own_of_bracket (by simp [bracket])
    · simp only [Form.Node.keepsNames, Bool.and_eq_true, bne_iff_ne] at keeps
      rw [key, String.append_empty]
      refine ⟨fun same => ?_, fun same => ?_⟩
      · exact keeps.1.1 ((String.append_left_inj "]").mp same)
      · exact keeps.1.2 ((String.append_left_inj "]").mp same)

end Render.Renderer

end Formwright
