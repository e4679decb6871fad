import Formwright.Check.Rule
import Formwright.Fault
import Formwright.Path

/-!
# Configuration

What a site may set for all its forms, with defaults for all of it.
-/

namespace Formwright

open Rule

/-- The configuration of a site. -/
structure Config where
  /-- The route under which reloads are fetched. -/
  baseRoute : String
  /-- The years offered before and after this one. -/
  yearSpan : Int
  textMaxlength : Int
  excludedFields : List String
  templatesDir : Option Path
  deriving DecidableEq, Repr

namespace Config

def defaultExcluded : List String := ["id", "inserted_at", "updated_at"]

def standard : Config where
  baseRoute := "/admin"
  yearSpan := 5
  textMaxlength := 255
  excludedFields := defaultExcluded
  templatesDir := none

def pathRule : Rule Path := fun v =>
  match v.string? with
  | some s => .good (Path.ofText s)
  | none => .fail .notPath

def check (entries : List (String × Value)) : Checked Config :=
  Config.mk <$> withDefault entries "base_route" text standard.baseRoute
    <*> withDefault entries "year_span" (wholeAtLeast 0) standard.yearSpan
    <*> withDefault entries "text_maxlength" (wholeAbove 0) standard.textMaxlength
    <*> withDefault entries "excluded_fields" (tupleOf text) standard.excludedFields
    <*> withDefault entries "templates_dir" (optional pathRule) none

end Config

end Formwright
