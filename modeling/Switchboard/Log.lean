import Switchboard.Numeral.Integer

/-!
# Log entries

What the library reports while it works: a fixed message and named fields.
-/

namespace Switchboard

/-- The content of a field of a log entry. -/
inductive LogField where
  | text (value : String)
  | count (value : Nat)
  deriving DecidableEq, Repr

/-- A message with its fields. -/
structure LogEntry where
  message : String
  fields : List (String × LogField)
  deriving DecidableEq, Repr

end Switchboard
