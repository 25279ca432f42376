import Switchboard.Logging.Level
import Switchboard.Numeral.Decimal
import Switchboard.Text.Blank
import Switchboard.Text.Pattern

/-!
# Directives of log filters

A directive sets the level for some of the events and spans. It can name the beginning of their
targets, a span, and fields, which may have to hold a value: `target[span{field=value}]=level`.
Each part can be left out, and a word alone is a level or a target.
-/

namespace Switchboard

/-- The value that a field must have. -/
inductive FieldValue where
  | truth (value : Bool)
  | integer (value : Int)
  | float (bits : UInt64)
  | pattern (text : String)
  deriving DecidableEq, Repr

namespace FieldValue

/-- The value that a text writes. What is no truth value and no number must be a pattern. -/
def ofText? (text : String) : Option FieldValue :=
  if text = "true" then
    some (.truth true)
  else if text = "false" then
    some (.truth false)
  else
    match readNatural? text.toList, readInteger text.toList, readFloat text.toList with
    | some value, _, _ => some (.integer value)
    | none, .ok value, _ => some (.integer value.toInt)
    | none, .error _, .ok value => some (.float value.toBits)
    | none, .error _, .error _ =>
      if Pattern.isPattern text then some (.pattern text) else none

end FieldValue

/-- What a directive asks of a field: that it is there, or also that it has a value. -/
structure FieldCondition where
  name : String
  value : Option FieldValue := none
  deriving DecidableEq, Repr

namespace FieldCondition

/-- The condition that a text writes as a name or as a name and a value with an equals sign between
them. What follows a second equals sign does not count. -/
def ofText? (text : List Char) : Option FieldCondition :=
  let name := String.ofList (text.takeWhile (· != '='))
  match text.dropWhile (· != '=') with
  | [] => some { name := name }
  | _ :: rest =>
    (FieldValue.ofText? (String.ofList (rest.takeWhile (· != '=')))).map fun value =>
      { name := name, value := value }

end FieldCondition

/-- A directive of a log filter. -/
structure Directive where
  /-- The beginning of the targets that the directive covers; all targets if absent. -/
  target : Option String := none
  /-- The name of the spans that the directive covers; all spans if absent. -/
  span : Option String := none
  fields : List FieldCondition := []
  level : LevelFilter
  deriving DecidableEq, Repr

namespace Directive

/-- Where the reading of a directive stands; positions are those of the first character of a
part. -/
inductive Stage where
  | start
  | levelOrTarget (start : Nat)
  | span (start : Nat)
  | field (start : Nat)
  | fields
  | target
  | level (start : Nat)
  | complete
  deriving DecidableEq, Repr

/-- What is read of a directive so far. -/
structure Partial where
  stage : Stage := .start
  directive : Directive := { level := .upTo .trace }
  deriving DecidableEq, Repr

/-- Whether a directive may begin with a character. -/
def mayBegin (character : Char) : Bool :=
  character == '-' || character == ':' || character == '_' || isAlphanumeric character

/-- The part of a text between two positions. -/
def slice (text : List Char) (start stop : Nat) : List Char :=
  (text.take stop).drop start

/-- The directive that a word alone stands for: a level or, if it is none, a target of which
everything is let through. -/
def ofWord (word : String) : Directive :=
  match LevelFilter.ofText? word with
  | some level => { level := level }
  | none => { target := word, level := .upTo .trace }

namespace Partial

/-- The state in which the reading goes on with another part. -/
def goTo (state : Partial) (stage : Stage) : Partial :=
  { state with stage := stage }

/-- The state behind the target of a directive. -/
def withTarget (state : Partial) (target : List Char) (stage : Stage) : Partial :=
  ⟨stage, { state.directive with target := String.ofList target }⟩

/-- The state behind the name of a span. -/
def withSpan (state : Partial) (name : Option String) (stage : Stage) : Partial :=
  ⟨stage, { state.directive with span := name }⟩

/-- The state behind a field. -/
def withField? (state : Partial) (field : List Char) (stage : Stage) : Option Partial :=
  if field.isEmpty then
    none
  else
    (FieldCondition.ofText? field).map fun condition =>
      ⟨stage, { state.directive with fields := state.directive.fields ++ [condition] }⟩

/-- The state behind a level. An empty text stands for everything. -/
def withLevel? (state : Partial) (level : List Char) : Option Partial :=
  let level? := if level.isEmpty then some (.upTo .trace) else
    LevelFilter.ofText? (String.ofList level)
  level?.map fun level => ⟨.complete, { state.directive with level := level }⟩

/-- Reads the character of a directive at a position. -/
def step (text : List Char) (state : Partial) (position : Nat) (character : Char) :
    Option Partial :=
  let part (start : Nat) := slice text start position
  match state.stage, character with
  | .start, '[' => state.goTo (.span (position + 1))
  | .start, _ => if mayBegin character then some (state.goTo (.levelOrTarget position)) else none
  | .levelOrTarget start, '=' => state.withTarget (part start) (.level (position + 1))
  | .levelOrTarget start, '[' => state.withTarget (part start) (.span (position + 1))
  | .levelOrTarget start, ',' => some ⟨.complete, ofWord (String.ofList (text.drop start))⟩
  | .levelOrTarget _, _ => state
  | .span start, ']' => state.withSpan (String.ofList (part start)) .target
  | .span start, '\x7b' =>
    let name := if (part start).isEmpty then none else some (String.ofList (part start))
    state.withSpan name (.field (position + 1))
  | .span _, _ => state
  | .field start, '\x7d' => state.withField? (part start) .fields
  | .field start, ',' => state.withField? (part start) (.field (position + 1))
  | .field _, _ => state
  | .fields, ']' => state.goTo .target
  | .target, '=' => state.goTo (.level (position + 1))
  | .level start, ',' => state.withLevel? (part start)
  | .level _, _ => state
  | _, ',' => state.goTo .complete
  | _, _ => none

/-- Reads the characters of a directive from a position on. -/
def steps (text : List Char) : Partial → Nat → List Char → Option Partial
  | state, _, [] => some state
  | state, position, character :: rest =>
    (state.step text position character).bind fun next => steps text next (position + 1) rest

/-- The directive that is read when a text has come to its end. -/
def finish? (text : List Char) (state : Partial) : Option Directive :=
  match state.stage with
  | .levelOrTarget start => some (ofWord (String.ofList (text.drop start)))
  | .level start => (state.withLevel? (text.drop start)).map Partial.directive
  | .target | .complete => some state.directive
  | .start | .span _ | .field _ | .fields => none

end Partial

/-- The directive that a text writes. Blanks around it are skipped, but positions count from the
beginning of the whole text. -/
def ofText? (content : String) : Option Directive :=
  let text := content.toList
  (Partial.steps text {} 0 (trim text)).bind (Partial.finish? text)

/-- Whether a target of an event or a span begins with that of a directive. -/
def coversTarget (directive : Directive) (target : String) : Bool :=
  match directive.target with
  | none => true
  | some start => start.toList.isPrefixOf target.toList

/-- Whether a directive decides without regard to spans and the values of fields. -/
def isFixed (directive : Directive) : Bool :=
  directive.span.isNone && directive.fields.all (·.value.isNone)

/-- Whether a directive sets the level inside the spans that it covers. -/
def isSpanBound (directive : Directive) : Bool :=
  directive.span.isSome || !directive.fields.isEmpty

/-- The names of the fields that a directive asks for. -/
def fieldNames (directive : Directive) : List String :=
  directive.fields.map FieldCondition.name

/-- Whether two directives differ in their levels at most. -/
def sameCondition (left right : Directive) : Bool :=
  left.target == right.target && left.span == right.span && left.fields == right.fields

end Directive

end Switchboard
