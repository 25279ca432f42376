import Switchboard.Config.TextMap
import Switchboard.Logging.Level

/-!
# Configuration

Everything that an operator can set, in four sections, with the values that hold when nothing is
set.
-/

namespace Switchboard

namespace CommandSettings

/-- The lead of commands when none is set. -/
def defaultLead : String :=
  "JC"

/-- The delimiters when none are set. -/
def defaultDelimiters : List String :=
  ["\n", " "]

end CommandSettings

/-- How messages become commands. -/
structure CommandSettings where
  lead : String := CommandSettings.defaultLead
  delimiters : List String := CommandSettings.defaultDelimiters
  caseInsensitive : Bool := true
  deriving DecidableEq, Repr

/-- The layouts of log lines. -/
inductive LogFormat where
  | compact
  | full
  | pretty
  | json
  deriving DecidableEq, Repr

namespace LogFormat

/-- Every layout. -/
def all : List LogFormat :=
  [compact, full, pretty, json]

/-- The name of a layout. -/
def name : LogFormat → String
  | compact => "compact"
  | full => "full"
  | pretty => "pretty"
  | json => "json"

/-- The layout with a given name. -/
def ofName? (name : String) : Option LogFormat :=
  all.find? (·.name == name)

end LogFormat

/-- The places that log lines can go to. -/
inductive LogOutput where
  | stdout
  | stderr
  | file
  deriving DecidableEq, Repr

namespace LogOutput

/-- Every place. -/
def all : List LogOutput :=
  [stdout, stderr, file]

/-- The name of a place. -/
def name : LogOutput → String
  | stdout => "stdout"
  | stderr => "stderr"
  | file => "file"

/-- The place with a given name. -/
def ofName? (name : String) : Option LogOutput :=
  all.find? (·.name == name)

end LogOutput

/-- The moments in the life of a span that are logged. -/
structure SpanEvents where
  new : Bool := false
  enter : Bool := false
  exit : Bool := false
  close : Bool := false
  deriving DecidableEq, Repr

/-- The level of logging when none is set. -/
def LoggingSettings.defaultLevel : String :=
  "info"

/-- What is logged, how, and where to. -/
structure LoggingSettings where
  level : String := LoggingSettings.defaultLevel
  format : LogFormat := .compact
  output : LogOutput := .stdout
  filePath : Option String := none
  threadIds : Bool := false
  fileLocation : Bool := false
  spanEvents : SpanEvents := {}
  /-- The levels of single modules, by module. -/
  filters : TextMap := .empty
  deriving DecidableEq

/-- The room for records of use when none is set. -/
def UsageSettings.defaultQueueCapacity : Nat :=
  1024

/-- Whether and how uses of commands are recorded. -/
structure UsageSettings where
  enabled : Bool := true
  queueCapacity : Nat := UsageSettings.defaultQueueCapacity
  deriving DecidableEq, Repr

namespace ReplySettings

/-- What a user is told of a failure when nothing else is set. -/
def defaultFailureMessage : String :=
  "Something went wrong while running this command."

/-- The greatest number of responses when none is set. -/
def defaultMaxResponses : Nat :=
  5

end ReplySettings

/-- What users get to see of failures, and how much at once. -/
structure ReplySettings where
  failureMessage : String := ReplySettings.defaultFailureMessage
  maxResponses : Nat := ReplySettings.defaultMaxResponses
  deriving DecidableEq, Repr

/-- A whole configuration. -/
structure Configuration where
  command : CommandSettings := {}
  logging : LoggingSettings := {}
  usage : UsageSettings := {}
  replies : ReplySettings := {}
  deriving DecidableEq

end Switchboard
