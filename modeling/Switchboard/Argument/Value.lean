import Switchboard.Numeral.Shortest

/-!
# Parameters and values

A handler declares its parameters with their kinds. A token is read into a value of the declared
kind before the handler runs.
-/

namespace Switchboard

/-- The kinds of parameter that a handler can declare. -/
inductive ParameterKind where
  | integer
  | float
  | text
  | identifier
  deriving DecidableEq, Repr

namespace ParameterKind

/-- Every kind of parameter. -/
def all : List ParameterKind :=
  [integer, float, text, identifier]

/-- The name of a kind in messages and documents. -/
def name : ParameterKind → String
  | integer => "integer"
  | float => "float"
  | text => "text"
  | identifier => "identifier"

/-- The kind with a given name. -/
def ofName? (name : String) : Option ParameterKind :=
  all.find? (·.name == name)

end ParameterKind

/-- A named parameter of a handler. -/
structure Parameter where
  name : String
  kind : ParameterKind
  deriving DecidableEq, Repr

/-- An argument after reading. -/
inductive Value where
  | integer (value : Int64)
  | float (value : Float)
  | text (value : String)
  | identifier (value : String)

namespace Value

/-- The kind of a value. -/
def kind : Value → ParameterKind
  | integer _ => .integer
  | float _ => .float
  | text _ => .text
  | identifier _ => .identifier

/-- The text of a value. -/
def display : Value → String
  | integer value => integerText value.toInt
  | float value => floatText value
  | text value => value
  | identifier value => value

end Value

end Switchboard
