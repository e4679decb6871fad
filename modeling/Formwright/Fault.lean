import Formwright.Check.Basic
import Formwright.Value.Text

/-!
# Faults

Everything that can stop a form from being loaded, compiled or rendered, as causes. The wording is
in `Fault.message` alone.

## Contents

* `Step`, `FormCause`: where in a form and why it cannot be compiled.
* `ItemCause`, `FileCause`: why an item list or a file cannot be loaded.
* `Misuse`: a value used in a way its kind does not allow.
* `Fault`, `Fault.message`, `Fault.refusal?`: all of them together.
* `FormFault`: what stops the compilation of a form.
-/

namespace Formwright

open Text

/-- A step on the way from a form to one of its declarations. -/
inductive Step where
  | input (field : String)
  | collection (field : String)
  | group (label : String)
  | hasMany (field : String)
  | actions
  deriving DecidableEq, Repr

def Step.text : Step → String
  | .input field => "input " ++ field
  | .collection field => "inputs " ++ field
  | .group label => "inputs " ++ quoted label
  | .hasMany field => "has_many " ++ field
  | .actions => "actions"

/-- Why a declaration cannot be compiled. -/
inductive FormCause where
  | noForm
  /-- A value of this kind stands where declarations are expected. -/
  | notDeclarations (kind : String)
  | scriptBelowTop
  | blankName
  | badOptions (refusal : Refusal)
  | noCollection
  | groupWithoutBody
  | actionsWithoutBody
  | noRowBuilder
  /-- Something that is no declaration, in its quoted form. -/
  | unknownDeclaration (literal : String)
  deriving DecidableEq, Repr

def FormCause.message : FormCause → String
  | .noForm => "form has no body"
  | .notDeclarations kind => "expected a sequence of declarations, got " ++ kind
  | .scriptBelowTop => "javascript is only allowed at the top level of a form"
  | .blankName => "field name must not be empty"
  | .badOptions refusal => "invalid options: " ++ refusal.summary
  | .noCollection => "collection inputs need a collection"
  | .groupWithoutBody => "inputs block has no body"
  | .actionsWithoutBody => "actions block has no body"
  | .noRowBuilder => "has_many needs a child field builder"
  | .unknownDeclaration literal => "unknown declaration " ++ literal

/-- Why an item of an item list is not a declaration. -/
inductive ItemCause where
  | notList
  | noKind
  /-- A kind that is not known, as it is shown. -/
  | unknownKind (kind : String)
  deriving DecidableEq, Repr

def ItemCause.message : ItemCause → String
  | .notList => "expected an array of tables"
  | .noKind => "each item needs a 'kind'"
  | .unknownKind kind => "unknown kind '" ++ kind ++ "'"

inductive FileCause where
  | invalidToml
  | noForm
  | refused (refusal : Refusal)
  deriving DecidableEq, Repr

inductive ConfigCause where
  | invalidToml
  | refused (refusal : Refusal)
  deriving DecidableEq, Repr

/-- A value used in a way that its kind does not allow. -/
inductive Misuse where
  /-- A value of another kind was needed. -/
  | kind
  /-- A sequence of another length was needed. -/
  | length
  /-- The whole part of an infinite number was asked for. -/
  | infinite
  | position
  /-- Something was asked of a value that values of its kind do not have. -/
  | attribute
  /-- Templates include each other without end. -/
  | depth
  /-- The entries of a template variable that is not there were asked for. -/
  | undefined
  /-- A signalling number was compared with a number. -/
  | signal
  deriving DecidableEq, Repr

/-- What stops a form from being loaded, compiled or rendered. -/
inductive Fault where
  | unrecognizedDate (value : Value)
  | unrecognizedTime (value : Value)
  | unknownModel (model : String)
  | unknownField (field model : String)
  | notHasMany (relation model : String)
  | form (resource : String) (path : List Step) (cause : FormCause)
  | openBlock (resource : String)
  | item (path : String) (cause : ItemCause)
  | file (path : String) (cause : FileCause)
  | config (path : String) (cause : ConfigCause)
  | noTemplate (name : String)
  /-- A key that cannot be the name of an attribute, in its quoted form. -/
  | attributeName (literal : String)
  | refused (refusal : Refusal)
  | misuse (misuse : Misuse)

namespace Fault

def location (resource : String) (path : List Step) : String :=
  joinWith " > " (("form " ++ resource) :: path.map Step.text)

/-- The wording of a fault; a misuse has none of its own. -/
def message : Fault → String
  | .unrecognizedDate value => "unrecognized date " ++ value.literal
  | .unrecognizedTime value => "unrecognized time " ++ value.literal
  | .unknownModel model => "Unknown model '" ++ model ++ "'"
  | .unknownField field model => "Unknown field '" ++ field ++ "' on model '" ++ model ++ "'"
  | .notHasMany relation model =>
    "'" ++ relation ++ "' is not a has-many association of '" ++ model ++ "'"
  | .form resource path cause => location resource path ++ "\n" ++ cause.message
  | .openBlock resource => "form " ++ resource ++ ": unclosed grouping block"
  | .item path cause => path ++ ": " ++ cause.message
  | .file path .invalidToml => "Invalid TOML in " ++ path
  | .file path .noForm => path ++ ": missing [form] table with a resource"
  | .file path (.refused refusal) => path ++ ": " ++ refusal.summary
  | .config path .invalidToml => "Invalid TOML in " ++ path
  | .config path (.refused refusal) =>
    "Invalid [forms] configuration in " ++ path ++ ": " ++ refusal.summary
  | .noTemplate name => name
  | .attributeName literal => "Invalid character in attribute name: " ++ literal
  | .refused refusal => refusal.summary
  | .misuse _ => ""

/-- The issues behind a fault, if it comes from checked data. -/
def refusal? : Fault → Option Refusal
  | .form _ _ (.badOptions refusal) => some refusal
  | .file _ (.refused refusal) => some refusal
  | .config _ (.refused refusal) => some refusal
  | .refused refusal => some refusal
  | _ => none

/-- A fault that the program reports; the others are errors of the data it was handed. -/
def isReported : Fault → Bool
  | .unrecognizedDate _ | .unrecognizedTime _ | .unknownModel _ | .unknownField _ _
  | .notHasMany _ _ | .form _ _ _ | .openBlock _ | .item _ _ | .file _ _ | .config _ _ => true
  | _ => false

end Fault

/-- What stops the compilation of a form: a cause with the way to it, or a fault that is not the
form's own. -/
inductive FormFault where
  | located (path : List Step) (cause : FormCause)
  | other (fault : Fault)

def FormFault.ofForm (resource : String) : FormFault → Fault
  | .located path cause => .form resource path cause
  | .other fault => fault

/-- The numeral of a whole number, which may not have too many digits. -/
def writtenNumeral (n : Int) : Except Fault String :=
  match Text.numeral? n with
  | some s => .ok s
  | none => .error (.misuse .length)

def Checked.orFault {α : Type} (model : String) (c : Checked α) : Except Fault α :=
  (c.orRefuse model).mapError Fault.refused

end Formwright
