import Audience.Problem

/-!
# Faults

The causes that end an operation before it has a result.
-/

namespace Audience

/-- Everything that can end an operation early. -/
inductive Fault where
  /-- A failure that is reported as a problem. -/
  | problem (problem : Problem)
  /-- A schema refused a value. -/
  | rejected (errors : List FieldError)
  /-- A value does not support what was asked of it. -/
  | misuse (misuse : Misuse)
  /-- A submission was needed and there is nobody to ask for one. -/
  | noSurface
  deriving Repr, Inhabited

end Audience
