import Formwright.Errors
import Formwright.Fault
import Formwright.Markup.Html

/-!
# Templates

A template is a markup tree with places to fill. Expressions name the variables of a scope;
variables that are not there are undefined, which is empty where it is written and false where it
is tested. Filling a template gives a markup tree.

## Contents

* `Binding`, `Scope`: what variables stand for.
* `Expr`, `Condition`: what places are filled with and when.
* `Node`, `AttrSpec`: the template.
* `Node.fillAll`: fills a template.
-/

namespace Formwright.Template

open Words

/-- What an expression stands for. -/
inductive Binding where
  | undefined
  | value (v : Value)
  | fragment (body : List Html)

abbrev Scope := List (String × Binding)

/-- A reference to a value. -/
inductive Expr where
  | name (name : String)
  | member (of : Expr) (name : String)
  /-- The label of an identifier. -/
  | label (of : Expr)
  /-- The sentences of a list of errors. -/
  | sentences (of : Expr)

inductive Condition where
  | holds (e : Expr)
  /-- The value is not nothing; an undefined one counts as present. -/
  | present (e : Expr)
  | equals (e : Expr) (text : String)
  | negate (c : Condition)

inductive Part where
  | text (s : String)
  /-- A character reference, written as it is. -/
  | reference (s : String)
  | slot (e : Expr)

inductive AttrSpec where
  | always (name : String) (value : List Part)
  | when (c : Condition) (name : String) (value : List Part)
  /-- One attribute for every entry of a table whose value is not nothing. -/
  | spread (e : Expr)

inductive Node where
  | text (s : String)
  | slot (e : Expr)
  | element (tag : String) (attrs : List AttrSpec) (body : List Node)
  | void (tag : String) (attrs : List AttrSpec)
  | choose (c : Condition) (yes no : List Node)
  | each (name : String) (e : Expr) (body : List Node)

namespace Binding

/-- The value bound, a filled fragment being markup. -/
def value? : Binding → Option Value
  | .undefined => none
  | .value v => some v
  | .fragment body => some (.markup (Html.writeAll body))

def isTrue (b : Binding) : Bool := b.value?.elim false Value.isTrue

def items (b : Binding) : Except Fault (List Value) :=
  match b.value? with
  | none => .ok []
  | some v =>
    match v.items? with
    | some items => .ok items
    | none => .error (.misuse .kind)

/-- The binding in a place of the tree; `escaping` is off in templates that are not markup. -/
def html (escaping : Bool) : Binding → List Html
  | .undefined => []
  | .fragment body => body
  | .value v => if escaping then [.piece v.piece] else [.piece (.markup v.toText)]

def pieces (escaping : Bool) (b : Binding) : List Piece :=
  match b.value? with
  | none => []
  | some v => if escaping then [v.piece] else [.markup v.toText]

end Binding

/-- A value as a label; nothing has an empty one. -/
def labelOf (v : Value) : String := if v.isNone then "" else humanize v.toText

def Expr.eval (scope : Scope) : Expr → Except Fault Binding
  | .name n => .ok ((scope.lookup n).getD .undefined)
  | .member e n => do
    match (← e.eval scope).value? with
    | none => .error (.misuse .undefined)
    | some v => return ((v.field? n).map Binding.value).getD .undefined
  | .label e => do
    return .value (.text ((← e.eval scope).value?.elim "" labelOf))
  | .sentences e => do
    match (← e.eval scope).value? with
    | some v => return .value (.list ((← Errors.sentencesOf v).map Errors.ofPiece))
    | none => return .value (.list [])

def Condition.eval (scope : Scope) : Condition → Except Fault Bool
  | .holds e => Binding.isTrue <$> e.eval scope
  | .present e => do return (← e.eval scope).value?.elim true (!·.isNone)
  | .equals e s => do return (← e.eval scope).value?.elim false (·.isText s)
  | .negate c => (!·) <$> c.eval scope

def Part.fill (scope : Scope) (escaping : Bool) : Part → Except Fault (List Piece)
  | .text s => .ok [.text s]
  | .reference s => .ok [.markup s]
  | .slot e => Binding.pieces escaping <$> e.eval scope

def fillParts (scope : Scope) (escaping : Bool) : List Part → Except Fault (List Piece)
  | [] => .ok []
  | p :: rest => do return (← p.fill scope escaping) ++ (← fillParts scope escaping rest)

/-- Characters that an attribute name may not hold. -/
def isNameBreak (c : Char) : Bool :=
  c == ' ' || c == '\t' || c == '\n' || c == '\r' || c.toNat == 11 || c.toNat == 12
    || c == '/' || c == '>' || c == '='

def spreadAttrs : List (Value × Value) → Except Fault (List Attr)
  | [] => .ok []
  | (key, v) :: rest =>
    if v.isNone then spreadAttrs rest
    else
      match key.string? with
      | none => .error (.misuse .kind)
      | some name => do
        if name.toList.any isNameBreak then throw (.attributeName key.literal)
        return ⟨key.piece, [v.piece]⟩ :: (← spreadAttrs rest)

def AttrSpec.fill (scope : Scope) (escaping : Bool) : AttrSpec → Except Fault (List Attr)
  | .always name value => do return [⟨.text name, ← fillParts scope escaping value⟩]
  | .when c name value => do
    if ← c.eval scope then return [⟨.text name, ← fillParts scope escaping value⟩] else return []
  | .spread e => do
    match (← e.eval scope).value? with
    | some (.table entries) => spreadAttrs entries
    | some v => throw (v.lacks "items")
    | none => throw (.misuse .undefined)

def fillAttrs (scope : Scope) (escaping : Bool) : List AttrSpec → Except Fault (List Attr)
  | [] => .ok []
  | a :: rest => do return (← a.fill scope escaping) ++ (← fillAttrs scope escaping rest)

def concatM {α β : Type} (f : α → Except Fault (List β)) : List α → Except Fault (List β)
  | [] => .ok []
  | a :: rest => do return (← f a) ++ (← concatM f rest)

mutual

def Node.fill (scope : Scope) (escaping : Bool) : Node → Except Fault (List Html)
  | .text s => .ok [.piece (.text s)]
  | .slot e => Binding.html escaping <$> e.eval scope
  | .element tag attrs body => do
    let attrs ← fillAttrs scope escaping attrs
    return [.element tag attrs (← Node.fillAll scope escaping body)]
  | .void tag attrs => do return [.void tag (← fillAttrs scope escaping attrs)]
  | .choose c yes no => do
    if ← c.eval scope then Node.fillAll scope escaping yes else Node.fillAll scope escaping no
  | .each name e body => do
    let items ← (← e.eval scope).items
    concatM (fun v => Node.fillAll ((name, .value v) :: scope) escaping body) items

def Node.fillAll (scope : Scope) (escaping : Bool) : List Node → Except Fault (List Html)
  | [] => .ok []
  | n :: rest => do
    return (← Node.fill scope escaping n) ++ (← Node.fillAll scope escaping rest)

end

end Formwright.Template
