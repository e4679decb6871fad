import Formwright.Proofs.Form.Everywhere
import Formwright.Render.Field

/-!
# What can be written

A whole number with too many digits has no text, and whoever is to write one stops. Where such a
number may come from is said here once: from the record, what was submitted and the errors of a
request, and from the choices, options and faulty rows of a form.

- `Context.isShowable`, `Descriptor.isShowable`: a request, and what is shown of one field.
- `FieldOptions.isShowable`, `Tree.IsShowable`: a form.
-/

namespace Formwright

/-- The record, what was submitted and the errors can be written. -/
def Context.isShowable (c : Context) : Bool :=
  c.record.isShowable && c.params.all (·.2.isShowable) && (c.errors.getD []).all (·.2.isShowable)

/-- The value of a field and its errors can be written. -/
def Descriptor.isShowable (desc : Descriptor) : Bool :=
  desc.value.isShowable && (desc.errors.getD []).all Value.isShowable

/-- What the options bring into a control beside the choices can be written. -/
def FieldOptions.isShowable (o : FieldOptions) : Bool :=
  o.options.all (·.2.isShowable) && o.htmlOptions.all (·.2.isShowable)

/-- All items of the collection can be written. A function gives such items if it is called with
what can be written. -/
def Collection.IsShowable (r : Render.Renderer) : Collection → Prop
  | .literal items => ∀ item ∈ items, item.isShowable = true
  | .computed source => ∀ (c : Context) (record given : Value) (call : Render.Invocation),
      c.isShowable = true → record.isShowable = true →
      r.call source c record = .ok (given, call) → given.isShowable = true

/-- Whatever is wrong with the declarations of the row has a place and can be written. -/
def Form.RowForm.isLocated : Form.RowForm → Bool
  | .nodes _ => true
  | .fault (.located _ _) => true
  | .fault (.other _) => false

/-- The choices and options of the node can be written, and what is wrong with its rows. -/
def Form.Node.IsShowable (r : Render.Renderer) : Form.Node → Prop
  | .input _ o =>
    (∀ collection, o.collection = some collection → collection.IsShowable r) ∧
      o.isShowable = true
  | .fieldset _ _ o => o.isShowable = true
  | .hasMany _ rows o => (∀ record, (rows record).isLocated = true) ∧ o.isShowable = true
  | _ => True

/-- The choices and options of all declarations can be written, those of rows too. -/
def Form.Tree.IsShowable (r : Render.Renderer) (t : Form.Tree) : Prop :=
  Form.Node.AllEverywhere (Form.Node.IsShowable r) t.nodes

end Formwright
