import Formwright.Form.Options
import Formwright.Markup.Html
import Formwright.Render.Behaviour

/-!
# Render output

What rendering a part of a form gives: its markup, the listeners of its controls, and the calls that
were made to computed collections and row builders on the way, in document order.

## Contents

* `Invocation`: a call with what it is given; `Call`: its line in the log of calls.
* `Output`: markup with what belongs to it.
-/

namespace Formwright.Render

/-- A call of something the form's author brought, with what it is given. -/
inductive Invocation where
  /-- A computed collection, for the model of the form and the record of its input. -/
  | resolve (source : Source) (model : String) (record : Value)
  /-- The builder of a relation's rows, for the record of the row. -/
  | build (field : String) (record : Value)

/-- The `id` of a record in the log of calls. -/
def recordId (record : Value) : Value := record.field "id"

/-- A line of the log of calls. -/
inductive Call where
  | resolve (model : String) (id : Value)
  | build (field : String) (id : Value)
  | load (model : String)

/-- The line of a call in the log. A collection of related records calls their loader. -/
def Invocation.logged : Invocation → Call
  | .resolve (.related model _) _ _ => .load model
  | .resolve _ model record => .resolve model (recordId record)
  | .build field record => .build field (recordId record)

/-- Markup with what belongs to it. -/
structure Output where
  html : List Html
  listeners : List Listener
  calls : List Invocation

namespace Output

def ofHtml (html : List Html) : Output := ⟨html, [], []⟩

def allListeners (parts : List Output) : List Listener := parts.flatMap (·.listeners)

def allCalls (parts : List Output) : List Invocation := parts.flatMap (·.calls)

/-- Parts in a row, one after the other on lines of their own. -/
def lines (parts : List Output) : Output :=
  ⟨Html.joinLines (parts.map (·.html)), allListeners parts, allCalls parts⟩

/-- The same listeners and calls around other markup. -/
def around (o : Output) (html : List Html) : Output := ⟨html, o.listeners, o.calls⟩

def silent (o : Output) : Output := ⟨o.html, [], o.calls⟩

def after (call : Invocation) (o : Output) : Output := ⟨o.html, o.listeners, call :: o.calls⟩

end Output

end Formwright.Render
