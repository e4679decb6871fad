/-!
# Checked data

Options, schemas and contexts arrive as dynamic values and are checked against the types of their
fields. A check does not stop at the first fault: `Checked` collects all that is wrong, each issue
with its location, and combining two checks keeps the issues of both, in order.

## Contents

* `Reason`, `Issue`: one thing that is wrong, and where.
* `Checked`: a value, or the issues; an `Applicative` that accumulates.
* `Refusal`: the issues of one checked record, with the record's name.
-/

namespace Formwright

inductive Reason where
  | missing
  | notText
  | notWhole
  | unreadableWhole
  | unboundedWhole
  | fractional
  | notFinite
  | notAbove
  | below
  | notTruth
  | unreadableTruth
  | notList
  | notTable
  | notTuple
  | notSet
  | notModel
  | notCallable
  | notPath
  | notMember
  | notLiteral
  | tooLong
  | unknownKey
  | rejected
  | notDate
  | unreadableDate
  | inexactDate
  | yearZero
  deriving DecidableEq, Repr

def Reason.code : Reason → String
  | .missing => "missing"
  | .notText => "string_type"
  | .notWhole => "int_type"
  | .unreadableWhole => "int_parsing"
  | .unboundedWhole => "int_parsing_size"
  | .fractional => "int_from_float"
  | .notFinite => "finite_number"
  | .notAbove => "greater_than"
  | .below => "greater_than_equal"
  | .notTruth => "bool_type"
  | .unreadableTruth => "bool_parsing"
  | .notList => "list_type"
  | .notTable => "dict_type"
  | .notTuple => "tuple_type"
  | .notSet => "frozen_set_type"
  | .notModel => "model_type"
  | .notCallable => "callable_type"
  | .notPath => "path_type"
  | .notMember => "enum"
  | .notLiteral => "literal_error"
  | .tooLong => "too_long"
  | .unknownKey => "extra_forbidden"
  | .rejected => "value_error"
  | .notDate => "date_type"
  | .unreadableDate => "date_from_datetime_parsing"
  | .inexactDate => "date_from_datetime_inexact"
  | .yearZero => "date_parsing"

/-- One thing that is wrong, and where: keys and positions from the outside in. -/
structure Issue where
  location : List String
  reason : Reason
  deriving DecidableEq, Repr

/-- The issues of a record, with the name of what was checked. -/
structure Refusal where
  model : String
  issues : List Issue
  deriving DecidableEq, Repr

def Refusal.summary (r : Refusal) : String :=
  let noun := if r.issues.length == 1 then " validation error for " else " validation errors for "
  toString r.issues.length ++ noun ++ r.model

inductive Checked (α : Type) where
  | good (value : α)
  | bad (issues : List Issue)

namespace Checked

variable {α β : Type}

/-- A check that finds one thing wrong, at the place under check. -/
def fail (reason : Reason) : Checked α := .bad [⟨[], reason⟩]

def map (f : α → β) : Checked α → Checked β
  | .good a => .good (f a)
  | .bad issues => .bad issues

/-- Both checks; the issues of the first come first. -/
def apply : Checked (α → β) → Checked α → Checked β
  | .good f, .good a => .good (f a)
  | .good _, .bad issues => .bad issues
  | .bad issues, .good _ => .bad issues
  | .bad issues, .bad more => .bad (issues ++ more)

instance : Applicative Checked where
  pure := .good
  map := map
  seq f a := apply f (a ())

def andThen : Checked α → (α → Checked β) → Checked β
  | .good a, f => f a
  | .bad issues, _ => .bad issues

def under (step : String) : Checked α → Checked α
  | .good a => .good a
  | .bad issues => .bad (issues.map fun i => ⟨step :: i.location, i.reason⟩)

def all : List (Checked α) → Checked (List α)
  | [] => .good []
  | c :: rest => apply (map List.cons c) (all rest)

def value? : Checked α → Option α
  | .good a => some a
  | .bad _ => none

def orRefuse (model : String) : Checked α → Except Refusal α
  | .good a => .ok a
  | .bad issues => .error ⟨model, issues⟩

end Checked

end Formwright
