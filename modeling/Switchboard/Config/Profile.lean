import Switchboard.Text.Lowercase

/-!
# Profiles

A profile selects which configuration files are read besides the main ones.
-/

namespace Switchboard

/-- The stage of operation that a configuration is loaded for. -/
inductive Profile where
  | development
  | production
  | custom (name : String)
  deriving DecidableEq, Repr

namespace Profile

/-- The name of a profile in file names. -/
def name : Profile → String
  | development => "development"
  | production => "production"
  | custom name => name

/-- The profile that a text names, in any case. -/
def ofName (text : String) : Profile :=
  let name := lowercase text
  if name = "production" ∨ name = "prod" then
    production
  else if name = "development" ∨ name = "dev" then
    development
  else
    custom name

end Profile

end Switchboard
