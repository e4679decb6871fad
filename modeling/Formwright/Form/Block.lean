import Formwright.Form.Compile

/-!
# Forms in blocks

A form may also be written step by step: declarations are added one after the other, and groups and
actions are blocks that are opened and closed around them. Closing a block declares it in the block
around it; leaving it by an exception drops it with everything in it, and so does closing it when
its own declaration is refused.

## Contents

* `StepArguments`: what a step is given.
* `Opening`, `Block`, `BlockForm`: a form in the making.
* `DeclarationCall`, `OpeningCall`, `BlockStep`: the steps.
* `BlockForm.add`, `openBlock`, `close`, `abandon`: what they do; `BlockForm.step` takes one of them
  and `BlockForm.run` all.
* `BlockForm.declarations`, `BlockForm.build`: the result.
-/

namespace Formwright.Form

/-! ## Arguments -/

/-- What a step is given: arguments by position, and options by name. -/
structure StepArguments where
  positional : List Value
  options : List (Value × Value)

namespace StepArguments

/-- Takes the next argument: the one in the next position or, when there is none, the option of its
name. An argument cannot be given both ways. -/
def take? (a : StepArguments) (name : String) : Except Fault (Option Value × StepArguments) :=
  match a.positional, Value.named? a.options name with
  | v :: rest, none => .ok (some v, ⟨rest, a.options⟩)
  | [], some v => .ok (some v, ⟨[], a.options.filter fun e => !e.1.isText name⟩)
  | [], none => .ok (none, a)
  | _ :: _, some _ => .error (.misuse .kind)

/-- Takes the next argument, which has to be there. -/
def take (a : StepArguments) (name : String) : Except Fault (Value × StepArguments) := do
  match ← a.take? name with
  | (some v, rest) => return (v, rest)
  | (none, _) => throw (.misuse .kind)

/-- The options that are left when all arguments have been taken. -/
def rest (a : StepArguments) : Except Fault (List (Value × Value)) :=
  if a.positional.isEmpty && (Value.named? a.options "self").isNone then .ok a.options
  else .error (.misuse .kind)

def done (a : StepArguments) : Except Fault Unit :=
  if a.positional.isEmpty && a.options.isEmpty then .ok () else .error (.misuse .kind)

def input (a : StepArguments) : Except Fault Declaration := do
  let (field, a) ← a.take "field_name"
  Declaration.ofInput field (← a.rest)

def collection (a : StepArguments) : Except Fault Declaration := do
  let (field, a) ← a.take "field_name"
  let (collection, a) ← a.take "collection"
  Declaration.ofCollection field collection (← a.rest)

/-- Rows of related records, with what is given in the place of their builder. -/
def hasMany (a : StepArguments) (builder : RowBuilder ⊕ Value) : Except Fault Declaration := do
  let (field, a) ← a.take "field_name"
  match builder with
  | .inl builder => Declaration.ofHasMany field (some builder) (← a.rest)
  | .inr other => Declaration.ofHasManyValue field other (← a.rest)

def content (a : StepArguments) (isMarkup : Bool) : Except Fault Declaration := do
  let (content, a) ← a.take (if isMarkup then "markup" else "value")
  a.done
  Declaration.ofContent content isMarkup

def script (a : StepArguments) : Except Fault Declaration := do
  let (script, a) ← a.take "script"
  a.done
  Declaration.ofScript script

end StepArguments

/-! ## Blocks -/

inductive Opening where
  | group (label : Value) (options : List (String × Value))
  | actions

/-- A group; without a label it has an empty one. -/
def StepArguments.group (a : StepArguments) : Except Fault Opening := do
  let (label, a) ← a.take? "label"
  let options ← Declaration.namedOptions [] (← a.rest)
  return .group (label.getD (.text "")) options

def StepArguments.actions (a : StepArguments) : Except Fault Opening := do
  a.done
  return .actions

/-- An open block with the declarations added so far. -/
structure Block where
  opening : Opening
  body : List Declaration

/-- A form in the making: what was declared at the top, and the open blocks, innermost first. -/
structure BlockForm where
  resource : Value
  top : List Declaration
  blocks : List Block

/-! ## Steps -/

inductive DeclarationCall where
  | input (given : StepArguments)
  | collection (given : StepArguments)
  | hasMany (given : StepArguments) (builder : RowBuilder ⊕ Value)
  | content (given : StepArguments) (isMarkup : Bool)
  | script (given : StepArguments)

def DeclarationCall.declaration : DeclarationCall → Except Fault Declaration
  | .input given => given.input
  | .collection given => given.collection
  | .hasMany given builder => given.hasMany builder
  | .content given isMarkup => given.content isMarkup
  | .script given => given.script

inductive OpeningCall where
  | group (given : StepArguments)
  | actions (given : StepArguments)

def OpeningCall.opening : OpeningCall → Except Fault Opening
  | .group given => given.group
  | .actions given => given.actions

/-- A step of writing a form: a declaration, the opening of a block, or the end of the innermost
block, normally or by an exception. -/
inductive BlockStep where
  | declare (call : DeclarationCall)
  | openBlock (call : OpeningCall)
  | close
  | leave

namespace BlockForm

def empty (resource : Value) : BlockForm := ⟨resource, [], []⟩

def add (f : BlockForm) (d : Declaration) : BlockForm :=
  match f.blocks with
  | [] => ⟨f.resource, f.top ++ [d], []⟩
  | b :: rest => ⟨f.resource, f.top, ⟨b.opening, b.body ++ [d]⟩ :: rest⟩

def openBlock (f : BlockForm) (opening : Opening) : BlockForm :=
  ⟨f.resource, f.top, ⟨opening, []⟩ :: f.blocks⟩

/-- Leaves the innermost block and drops it. -/
def abandon (f : BlockForm) : BlockForm := ⟨f.resource, f.top, f.blocks.drop 1⟩

def Block.declaration (b : Block) : Except Fault Declaration :=
  match b.opening with
  | .group label options => Declaration.ofGroup label (some b.body) options
  | .actions => .ok (.actions (some b.body))

/-- Closes the innermost block: the form after it, and whether the block was declared. -/
def close (f : BlockForm) : BlockForm × Except Fault Unit :=
  match f.blocks with
  | [] => (f, .ok ())
  | b :: _ =>
    match Block.declaration b with
    | .ok d => (f.abandon.add d, .ok ())
    | .error e => (f.abandon, .error e)

/-- Takes a step: the form after it, and whether it succeeded. -/
def step (f : BlockForm) : BlockStep → BlockForm × Except Fault Unit
  | .declare call =>
    match call.declaration with
    | .ok d => (f.add d, .ok ())
    | .error e => (f, .error e)
  | .openBlock call =>
    match call.opening with
    | .ok opening => (f.openBlock opening, .ok ())
    | .error e => (f, .error e)
  | .close => f.close
  | .leave => (f.abandon, .ok ())

/-- The form after a sequence of steps, those included that failed. -/
def run (f : BlockForm) (steps : List BlockStep) : BlockForm :=
  steps.foldl (fun f s => (f.step s).1) f

/-- The declarations of a form whose blocks are all closed. -/
def declarations (f : BlockForm) : Except Fault (List Declaration) :=
  if f.blocks.isEmpty then .ok f.top else .error (.openBlock f.resource.toText)

def build (f : BlockForm) : Except Fault Tree := do
  Tree.ofDescriptionFor (some (.declarations (← f.declarations))) f.resource

end BlockForm

end Formwright.Form
