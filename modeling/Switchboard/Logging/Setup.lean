import Switchboard.Config.Files
import Switchboard.Config.Schema
import Switchboard.Logging.Filter

/-!
# Setup of logging

From its settings and one environment variable follow which events are logged, in which layout,
and where they go. Logging is set up once; later attempts change nothing.
-/

namespace Switchboard

/-- The variable whose filter takes the place of the configured level. -/
def filterVariable : String :=
  "RUST_LOG"

namespace LoggingSettings

/-- The configured level, or the usual one if the text is not a level. -/
def baseLevel (settings : LoggingSettings) : LogLevel :=
  (LogLevel.ofText? settings.level).getD .info

/-- The directives of single modules, as texts. -/
def moduleDirectives (settings : LoggingSettings) : List String :=
  settings.filters.entries.map fun (module, level) => module ++ "=" ++ lowercase level

/-- The filter in force. Directives of modules that cannot be read are left out. -/
def logFilter (settings : LoggingSettings) (environment : List (String × String)) : LogFilter :=
  let base := ((environment.lookup filterVariable).bind LogFilter.ofText?).getD
    (.ofLevel settings.baseLevel)
  (settings.moduleDirectives.filterMap Directive.ofText?).foldl LogFilter.add base

/-- The layout in force. Lines in JSON are not available and are written in full instead. -/
def effectiveFormat (settings : LoggingSettings) : LogFormat :=
  match settings.format with
  | .json => .full
  | format => format

/-- Whether log lines tell the file and the line that they come from. -/
def showsLocation (settings : LoggingSettings) : Bool :=
  settings.fileLocation || settings.effectiveFormat == .pretty

end LoggingSettings

/-- Where log lines go. -/
inductive LogSink where
  | stdout
  | stderr
  | file (directory name : String)
  deriving DecidableEq, Repr

/-- The name of a log file whose path does not give one. -/
def defaultLogFile : String :=
  "jelly.log"

/-- The steps of a path that count, without a step to the same place after another one. -/
def pathParts (path : String) : List String :=
  match pathSteps path with
  | [] => []
  | first :: rest =>
    let rest := rest.filter fun step => step != "" && step != "."
    if first = "" then rest else first :: rest

/-- The directory and the name of the log file at a path. -/
def logFileLocation (path : String) : String × String :=
  let parts := pathParts path
  let directory := "/".intercalate parts.dropLast
  let lead := if path.startsWith "/" && !parts.isEmpty then "/" else ""
  (if (lead ++ directory).isEmpty then "." else lead ++ directory,
    match parts.getLast? with
    | none | some "." | some ".." => defaultLogFile
    | some name => name)

namespace LoggingSettings

/-- Where log lines go. Without a path, a file is not available. -/
def sink (settings : LoggingSettings) : LogSink :=
  match settings.output, settings.filePath with
  | .stdout, _ => .stdout
  | .stderr, _ => .stderr
  | .file, some path => .file (logFileLocation path).1 (logFileLocation path).2
  | .file, none => .stdout

end LoggingSettings

namespace LogSink

/-- The name of a place in reports, with steps upwards carried out. -/
def name : LogSink → String
  | stdout => "<stdout>"
  | stderr => "<stderr>"
  | file directory name => "/".intercalate (placeOf directory ++ [name])

/-- Whether log lines can go to a place. A file must not be a directory or below another file. -/
def isAvailable (files : Files) : LogSink → Bool
  | stdout | stderr => true
  | file directory name => (files.openFile? (directory ++ "/" ++ name)).isSome

/-- Whether a place shows although nothing has been written to it. -/
def showsUnwritten : LogSink → Bool
  | stdout | stderr => false
  | file _ _ => true

/-- Whether a place can be seen from the working directory. A file must be below it. -/
def isInSight : LogSink → Bool
  | stdout | stderr => true
  | file directory _ =>
    match placeOf directory with
    | ".." :: _ | "/" :: _ => false
    | _ => true

end LogSink

/-- How events are logged. -/
structure Logger where
  filter : LogFilter
  format : LogFormat
  sink : LogSink
  spanEvents : SpanEvents
  threadIds : Bool
  fileLocation : Bool
  deriving DecidableEq, Repr

namespace Logger

/-- The logger that settings and variables describe. -/
def ofSettings (settings : LoggingSettings) (environment : List (String × String)) : Logger where
  filter := settings.logFilter environment
  format := settings.effectiveFormat
  sink := settings.sink
  spanEvents := settings.spanEvents
  threadIds := settings.threadIds
  fileLocation := settings.showsLocation

end Logger

/-- The one logger of a program, once it is installed. -/
structure LoggerSlot where
  installed : Option Logger := none
  deriving DecidableEq, Repr

namespace LoggerSlot

/-- The slot after an attempt to install a logger, and whether the attempt has succeeded. -/
def install (slot : LoggerSlot) (logger : Logger) : LoggerSlot × Bool :=
  match slot.installed with
  | none => (⟨some logger⟩, true)
  | some _ => (slot, false)

end LoggerSlot

end Switchboard
