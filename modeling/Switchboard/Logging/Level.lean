import Switchboard.Numeral.Integer
import Switchboard.Text.Lowercase

/-!
# Log levels

The five levels of log events by rising severity. A level can be written by its name, in any
ASCII case, or by its number, where one is the most severe. What a filter lets through is written
in the same way, with zero for nothing.
-/

namespace Switchboard

/-- The severity of a log event. -/
inductive LogLevel where
  | trace
  | debug
  | info
  | warn
  | error
  deriving DecidableEq, Repr

namespace LogLevel

/-- Every level, by rising severity. -/
def all : List LogLevel :=
  [trace, debug, info, warn, error]

/-- The name of a level. -/
def name : LogLevel → String
  | trace => "trace"
  | debug => "debug"
  | info => "info"
  | warn => "warn"
  | error => "error"

/-- How much a level lets through: one for errors only, five for everything. -/
def verbosity : LogLevel → Nat
  | trace => 5
  | debug => 4
  | info => 3
  | warn => 2
  | error => 1

/-- The level with a given verbosity. -/
def ofVerbosity? (verbosity : Nat) : Option LogLevel :=
  all.find? (·.verbosity == verbosity)

/-- The level with a given name, in any ASCII case. -/
def ofName? (text : String) : Option LogLevel :=
  all.find? fun level => level.name == lowercaseASCII text

/-- The level that a text writes by its number or by its name. -/
def ofText? (text : String) : Option LogLevel :=
  (readNatural? text.toList).bind ofVerbosity? <|> ofName? text

end LogLevel

/-- What is let through: nothing, or events from a severity upwards. -/
inductive LevelFilter where
  | off
  | upTo (level : LogLevel)
  deriving DecidableEq, Repr

namespace LevelFilter

/-- How much is let through, from zero for nothing to five for everything. -/
def verbosity : LevelFilter → Nat
  | off => 0
  | upTo level => level.verbosity

/-- Whether a level is let through. -/
def admits (filter : LevelFilter) (level : LogLevel) : Bool :=
  level.verbosity ≤ filter.verbosity

/-- The one of two filters that lets more through. -/
def join (left right : LevelFilter) : LevelFilter :=
  if left.verbosity < right.verbosity then right else left

/-- The filter that a text writes by a number from zero to five or by a name. -/
def ofText? (text : String) : Option LevelFilter :=
  if readNatural? text.toList = some 0 ∨ lowercaseASCII text = "off" then
    some off
  else
    (LogLevel.ofText? text).map upTo

end LevelFilter

end Switchboard
