import LedgerWatch.Index
import LedgerWatch.Text.Blank

/-!
# Environments

The variables of a process. Their values are bytes; a value that is not UTF-8 reads as if the
variable were unset.
-/

namespace LedgerWatch

/-- The variables of a process. -/
abbrev Environment := Index String ByteArray

namespace Environment

/-- Whether a variable is set, to whatever value. -/
def isSet (env : Environment) (name : String) : Bool :=
  (env.get? name).isSome

/-- The text of a variable. -/
def text? (env : Environment) (name : String) : Option String :=
  (env.get? name).bind String.fromUTF8?

/-- Sets a variable to a text, unless it has a text already. -/
def supply (env : Environment) (name value : String) : Environment :=
  if (env.text? name).isSome then env else env.insert name value.toUTF8

/-- The text of a variable without the blanks around it, unless nothing remains. -/
def setting? (env : Environment) (name : String) : Option String :=
  (env.text? name).bind fun value =>
    if (Text.trimmed value).isEmpty then none else some (Text.trimmed value)

end Environment

end LedgerWatch
