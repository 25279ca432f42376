import Switchboard.Argument.Value
import Switchboard.Text.Hexadecimal

/-!
# Coercion of tokens

A coercion reads a token as a value of a declared kind or says why it cannot. The standard
coercion reads integers of 64 bits, finite doubles, any text, and identifiers of twenty-four
hexadecimal digits.
-/

namespace Switchboard

/-- The reasons for which a token has no value of a kind. -/
inductive CoercionFault where
  | integer (fault : IntegerFault)
  | float (fault : FloatFault)
  | notFinite
  | identifierLength (bytes : Nat)
  | notHexadecimal
  | refused (reason : String)
  deriving DecidableEq, Repr

/-- The number of hexadecimal digits of an identifier. -/
def identifierLength : Nat :=
  24

namespace CoercionFault

/-- The wording of a fault. -/
def message : CoercionFault → String
  | integer fault => fault.message
  | float fault => fault.message
  | notFinite => "not a finite number"
  | identifierLength bytes =>
    "expected " ++ naturalText Switchboard.identifierLength ++ " hex digits, got " ++
      naturalText bytes
  | notHexadecimal => "contains non-hex digits"
  | refused reason => reason

end CoercionFault

/-- A token that could not be read as a value of a kind. -/
structure CoercionError where
  kind : ParameterKind
  raw : String
  fault : CoercionFault
  deriving DecidableEq, Repr

namespace CoercionError

/-- The wording of an error. -/
def message (error : CoercionError) : String :=
  "cannot read '" ++ error.raw ++ "' as " ++ error.kind.name ++ ": " ++ error.fault.message

end CoercionError

/-- The identifier that a token writes, in lower case. -/
def readIdentifier (raw : String) : Except CoercionFault String :=
  if raw.utf8ByteSize ≠ identifierLength then
    .error (.identifierLength raw.utf8ByteSize)
  else if raw.toList.all isHexDigit then
    .ok (String.ofList (raw.toList.map Char.toLower))
  else
    .error .notHexadecimal

/-- The finite double that a token writes. -/
def readFinite (raw : String) : Except CoercionFault Float :=
  match readFloat raw.toList with
  | .error fault => .error (.float fault)
  | .ok float => if float.isFinite then .ok float else .error .notFinite

/-- The value of a kind that a token writes. -/
def readValue (kind : ParameterKind) (raw : String) : Except CoercionFault Value :=
  match kind with
  | .text => .ok (.text raw)
  | .integer =>
    match readInteger raw.toList with
    | .error fault => .error (.integer fault)
    | .ok integer => .ok (.integer integer)
  | .float => (readFinite raw).map Value.float
  | .identifier => (readIdentifier raw).map Value.identifier

/-- A way of reading a token as a value of a kind. -/
abbrev Coercion := ParameterKind → String → Except CoercionError Value

namespace Coercion

/-- The coercion that reads each kind by its own rules. -/
def standard : Coercion :=
  fun kind raw => (readValue kind raw).mapError fun fault => ⟨kind, raw, fault⟩

/-- The coercion that keeps every token as a text. -/
def verbatim : Coercion :=
  fun _ raw => .ok (.text raw)

/-- The coercion that refuses every token for one reason. -/
def refusing (reason : String) : Coercion :=
  fun kind raw => .error ⟨kind, raw, .refused reason⟩

end Coercion

end Switchboard
