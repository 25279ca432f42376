import Switchboard.Logging.Setup

/-!
# Trials of loggers

A logger is tried out with one event for every target and level, and then with an event inside a
span. The trial shows what the filter lets through and what the lines look like.
-/

namespace Switchboard

/-- What a logger writes in a trial. -/
structure LogTrial where
  /-- The levels that come out for each target, by falling severity. -/
  passed : List (String × List LogLevel)
  /-- The moments of the span that are written. -/
  moments : List String
  /-- The look of the event inside the span, if it comes out. -/
  layout : Option LogFormat
  deriving DecidableEq, Repr

namespace Logger

/-- The levels of the events of a target that are logged, by falling severity. -/
def passed (logger : Logger) (target : String) : List LogLevel :=
  LogLevel.all.reverse.filter (logger.filter.admits target)

/-- The names of the moments of a span that are logged. -/
def moments (logger : Logger) (span : LogSpan) : List String :=
  let events := logger.spanEvents
  let all := [("new", events.new), ("enter", events.enter), ("exit", events.exit),
    ("close", events.close)]
  if logger.filter.follows span then (all.filter Prod.snd).map Prod.fst else []

/-- What an event with the target and the level of a span looks like inside that span. In full, an
event outside of all spans that are followed looks like a compact one. -/
def layoutInside? (logger : Logger) (span : LogSpan) : Option LogFormat :=
  if !logger.filter.admitsInside span span.target span.level then
    none
  else if logger.format == .full && !logger.filter.follows span then
    some .compact
  else
    some logger.format

/-- The trial of a logger with some targets and a span. Nothing is seen of lines that go to a place
out of sight. -/
def trial (logger : Logger) (targets : List String) (span : LogSpan) : LogTrial :=
  if logger.sink.isInSight then
    { passed := targets.map fun target => (target, logger.passed target)
      moments := logger.moments span
      layout := logger.layoutInside? span }
  else
    { passed := targets.map fun target => (target, []), moments := [], layout := none }

end Logger

namespace LogTrial

/-- Whether anything is seen in a trial. -/
def isWritten (trial : LogTrial) : Bool :=
  trial.passed.any (!·.2.isEmpty) || !trial.moments.isEmpty || trial.layout.isSome

/-- The places that show after a trial. -/
def places (trial : LogTrial) (sink : LogSink) : List String :=
  if trial.isWritten || (sink.showsUnwritten && sink.isInSight) then [sink.name] else []

end LogTrial

end Switchboard
