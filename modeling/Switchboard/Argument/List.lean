import Switchboard.Argument.Coercion

/-!
# Arguments of a call

The values that a handler receives, in the order of its parameters. A handler reads an argument by
its position and the kind that it expects.
-/

namespace Switchboard

/-- The arguments of one call of a handler. -/
structure Arguments where
  values : List Value

/-- The reasons for which an argument cannot be read. -/
inductive ArgumentError where
  | missing (index size : Nat)
  | kindMismatch (index : Nat) (expected actual : ParameterKind)
  deriving DecidableEq, Repr

namespace ArgumentError

/-- The wording of an error. -/
def message : ArgumentError → String
  | missing index size =>
    "argument #" ++ naturalText index ++ " is missing (got " ++ naturalText size ++ ")"
  | kindMismatch index expected actual =>
    "argument #" ++ naturalText index ++ " is " ++ actual.name ++ ", not " ++ expected.name

end ArgumentError

namespace Arguments

/-- The number of arguments. -/
def size (arguments : Arguments) : Nat :=
  arguments.values.length

/-- Whether there are no arguments. -/
def isEmpty (arguments : Arguments) : Bool :=
  arguments.values.isEmpty

/-- The argument at a position, of whatever kind. -/
def get? (arguments : Arguments) (index : Nat) : Option Value :=
  arguments.values[index]?

/-- The argument at a position, read by a function that knows one kind of value. -/
def read {α : Type} (arguments : Arguments) (expected : ParameterKind) (select : Value → Option α)
    (index : Nat) : Except ArgumentError α :=
  match arguments.get? index with
  | none => .error (.missing index arguments.size)
  | some value =>
    match select value with
    | some content => .ok content
    | none => .error (.kindMismatch index expected value.kind)

/-- The integer at a position. -/
def integer (arguments : Arguments) (index : Nat) : Except ArgumentError Int64 :=
  arguments.read .integer (fun | .integer value => some value | _ => none) index

/-- The double at a position. -/
def float (arguments : Arguments) (index : Nat) : Except ArgumentError Float :=
  arguments.read .float (fun | .float value => some value | _ => none) index

/-- The text at a position. -/
def text (arguments : Arguments) (index : Nat) : Except ArgumentError String :=
  arguments.read .text (fun | .text value => some value | _ => none) index

/-- The identifier at a position. -/
def identifier (arguments : Arguments) (index : Nat) : Except ArgumentError String :=
  arguments.read .identifier (fun | .identifier value => some value | _ => none) index

/-- The text of the argument at a position, read with the accessor of the given kind. -/
def display (arguments : Arguments) (kind : ParameterKind) (index : Nat) :
    Except ArgumentError String :=
  match kind with
  | .integer => (arguments.integer index).map fun value => (Value.integer value).display
  | .float => (arguments.float index).map fun value => (Value.float value).display
  | .text => arguments.text index
  | .identifier => arguments.identifier index

end Arguments

end Switchboard
