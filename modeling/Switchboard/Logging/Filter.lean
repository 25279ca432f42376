import Switchboard.Logging.Directive

/-!
# Log filters

A filter is a list of directives. For an event, the most specific of the directives that cover it
decides; an event that no directive covers is dropped. Inside a span a directive that is bound to
that span or to its fields can let more through.
-/

namespace Switchboard

/-- A stretch of a program in which events happen. -/
structure LogSpan where
  name : String
  target : String
  level : LogLevel
  fields : List (String × Int)
  deriving DecidableEq, Repr

/-- The fields that every event has. -/
def eventFields : List String :=
  ["message"]

namespace FieldCondition

/-- Whether a span has the value that is asked for. Its fields hold integers. -/
def holdsIn (condition : FieldCondition) (span : LogSpan) : Bool :=
  match condition.value with
  | none => true
  | some value => (span.fields.lookup condition.name).any fun held => value == .integer held

end FieldCondition

namespace Directive

/-- Whether a directive covers the events of a target. -/
def coversEvent (directive : Directive) (target : String) : Bool :=
  directive.coversTarget target && directive.fieldNames.all eventFields.contains

/-- Whether a directive is about a span, whatever the values of its fields. -/
def concerns (directive : Directive) (span : LogSpan) : Bool :=
  directive.coversTarget span.target && directive.span.all (· == span.name) &&
    directive.fieldNames.all fun name => (span.fields.lookup name).isSome

/-- The conditions on values that count: of those on one field the last one. -/
def valueConditions (directive : Directive) : List FieldCondition :=
  go (directive.fields.filter (·.value.isSome))
where
  /-- The conditions without those that a later one replaces. -/
  go : List FieldCondition → List FieldCondition
    | [] => []
    | condition :: rest =>
      if rest.any (·.name == condition.name) then go rest else condition :: go rest

/-- Whether the fields of a span have the values that a directive asks for. -/
def holdsIn (directive : Directive) (span : LogSpan) : Bool :=
  directive.valueConditions.all (·.holdsIn span)

/-- How specific a target is: any is more specific than none, and a longer one more than a shorter
one. -/
def targetRank (directive : Directive) : Nat :=
  match directive.target with
  | none => 0
  | some target => target.utf8ByteSize + 1

/-- Whether a list of names comes before another one in reversed alphabetical order. -/
def namesPrecede : List String → List String → Bool
  | _, [] => false
  | [], _ :: _ => false
  | left :: lefts, right :: rights =>
    if left = right then namesPrecede lefts rights else decide (right < left)

/-- Whether a directive is more specific than another one: by its target, then by the number of its
fields, and then by their names. -/
def precedes (left right : Directive) : Bool :=
  if left.targetRank ≠ right.targetRank then
    decide (right.targetRank < left.targetRank)
  else if left.fields.length ≠ right.fields.length then
    decide (right.fields.length < left.fields.length)
  else
    namesPrecede left.fieldNames right.fieldNames

end Directive

/-- A log filter. No two of its directives of one kind differ in their levels only. -/
structure LogFilter where
  /-- The directives that decide by targets and the names of fields. -/
  fixed : List Directive := []
  /-- The directives that set the level inside spans. -/
  spanBound : List Directive := []
  /-- The greatest level that a directive has ever set. -/
  greatest : LevelFilter := .off
  deriving DecidableEq, Repr

namespace LogFilter

/-- The directives with one more, which takes the place of one with the same condition. -/
def replaceOne (directives : List Directive) (directive : Directive) : List Directive :=
  directives.filter (!·.sameCondition directive) ++ [directive]

/-- The filter with one more directive, which is bound to spans only if it has to be. -/
def add (filter : LogFilter) (directive : Directive) : LogFilter :=
  let greatest := filter.greatest.join directive.level
  if directive.isFixed then
    { filter with fixed := replaceOne filter.fixed directive, greatest := greatest }
  else
    { filter with spanBound := replaceOne filter.spanBound directive, greatest := greatest }

/-- The filter with one more directive of its text. A directive that asks for fields without values
is of both kinds. -/
def addOwn (filter : LogFilter) (directive : Directive) : LogFilter :=
  let added := filter.add directive
  if directive.isFixed && directive.isSpanBound then
    { added with spanBound := replaceOne added.spanBound directive }
  else
    added

/-- The filter of a list of directives. Without any directive, nothing is let through. -/
def ofDirectives (directives : List Directive) : LogFilter :=
  if directives.isEmpty then
    add {} { level := .off }
  else
    directives.foldl addOwn {}

/-- The filter that lets one level through everywhere. -/
def ofLevel (level : LogLevel) : LogFilter :=
  add {} { level := .upTo level }

/-- The parts of a text between its commas. -/
def partsOf (text : List Char) : List (List Char) :=
  go [] text
where
  /-- The parts of a text behind the reversed beginning of the first one. -/
  go (pending : List Char) : List Char → List (List Char)
    | [] => [pending.reverse]
    | ',' :: rest => pending.reverse :: go [] rest
    | character :: rest => go (character :: pending) rest

/-- The filter that a text writes as directives between commas. -/
def ofText? (text : String) : Option LogFilter :=
  let parts := (partsOf text.toList).filter (!·.isEmpty)
  (parts.mapM fun part => Directive.ofText? (String.ofList part)).map ofDirectives

/-- The more specific one of two directives. -/
def moreSpecific (best : Option Directive) (directive : Directive) : Option Directive :=
  match best with
  | none => some directive
  | some other => if directive.precedes other then some directive else some other

/-- The most specific one of the directives. -/
def mostSpecific? (directives : List Directive) : Option Directive :=
  directives.foldl moreSpecific none

/-- Whether an event outside of spans is let through. -/
def admits (filter : LogFilter) (target : String) (level : LogLevel) : Bool :=
  match mostSpecific? (filter.fixed.filter (·.coversEvent target)) with
  | some directive => directive.level.admits level
  | none => false

/-- The greatest level that anything can have to be noticed. Spans whose values have to be looked at
are always noticed. -/
def horizon (filter : LogFilter) : LevelFilter :=
  if filter.spanBound.any fun directive => directive.fields.any (·.value.isSome) then
    .upTo .trace
  else
    filter.greatest

/-- The span-bound directives that are about a span. -/
def scopesOf (filter : LogFilter) (span : LogSpan) : List Directive :=
  filter.spanBound.filter (·.concerns span)

/-- Whether a span is followed. A span that span-bound directives are about always is, and another
one if the filter lets its level through for its target. -/
def follows (filter : LogFilter) (span : LogSpan) : Bool :=
  let decisive? := mostSpecific? (filter.fixed.filter (·.coversTarget span.target))
  filter.horizon.admits span.level &&
    (!(filter.scopesOf span).isEmpty || decisive?.any (·.level.admits span.level))

/-- The level that span-bound directives set inside a span. -/
def levelInside (filter : LogFilter) (span : LogSpan) : LevelFilter :=
  ((filter.scopesOf span).filter (·.holdsIn span)).foldl
    (fun level directive => level.join directive.level) .off

/-- Whether an event inside a span is let through. -/
def admitsInside (filter : LogFilter) (span : LogSpan) (target : String) (level : LogLevel) :
    Bool :=
  (filter.follows span && (filter.levelInside span).admits level) || filter.admits target level

end LogFilter

end Switchboard
