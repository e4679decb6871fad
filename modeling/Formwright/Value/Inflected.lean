import Formwright.Value.Entries
import Formwright.Words.Inflection

/-!
# Inflecting values

Names are inflected where they are texts. A value that counts as false is left as it is; any other
value has no last part that could be inflected.

## Contents

* `plural`, `singular`: the plural and the singular of a value.
-/

namespace Formwright.Value

def inflected (inflect : String → String) (v : Value) : Except Fault Value :=
  match v.string? with
  | some s => .ok (.text (inflect s))
  | Option.none => if v.isTrue then .error (.misuse .attribute) else .ok v

def plural (v : Value) : Except Fault Value := inflected Words.pluralize v

def singular (v : Value) : Except Fault Value := inflected Words.singularize v

end Formwright.Value
