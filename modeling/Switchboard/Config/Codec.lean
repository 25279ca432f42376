import Switchboard.Config.Schema
import Switchboard.Document.Decode

/-!
# Configurations as documents

A configuration is written as a document in full, and read from a document in which any section
and any field may be absent. A section that is absent is the section of a configuration in which
nothing is set. In a section that is there, a field that is absent has a default of its own.
-/

namespace Switchboard

namespace TextMap

/-- The map that a document describes. -/
def ofDocument? : Document → Option TextMap
  | .table entries =>
    (entries.mapM fun ((key, value) : String × Document) =>
      value.text?.map fun text => (key, text)).map ofList
  | _ => none

/-- The document of a map. -/
def toDocument (map : TextMap) : Document :=
  .table (map.entries.map fun (key, value) => (key, .text value))

end TextMap

namespace CommandSettings

/-- The section that a document describes. -/
def ofDocument? (surplus : Bool) (document : Document) : Option CommandSettings := do
  let fields ← document.fields? surplus ["prefix", "delimiters", "case_insensitive"]
  return {
    lead := ← fields.optional? "prefix" defaultLead Document.text?
    delimiters := ← fields.optional? "delimiters" defaultDelimiters
      (Document.listOf? Document.text?)
    caseInsensitive := ← fields.optional? "case_insensitive" true
      Document.boolean? }

/-- The document of a section. -/
def toDocument (settings : CommandSettings) : Document :=
  .table [("prefix", .text settings.lead),
    ("delimiters", .array (settings.delimiters.map .text)),
    ("case_insensitive", .boolean settings.caseInsensitive)]

end CommandSettings

namespace LogFormat

/-- The layout that a document names. -/
def ofDocument? (document : Document) : Option LogFormat :=
  (document.choice? (all.map name)).bind ofName?

end LogFormat

namespace LogOutput

/-- The place that a document names. -/
def ofDocument? (document : Document) : Option LogOutput :=
  (document.choice? (all.map name)).bind ofName?

end LogOutput

namespace SpanEvents

/-- The moments that a document describes. -/
def ofDocument? (surplus : Bool) (document : Document) : Option SpanEvents := do
  let fields ← document.fields? surplus ["new", "enter", "exit", "close"]
  return {
    new := ← fields.optional? "new" false Document.boolean?
    enter := ← fields.optional? "enter" false Document.boolean?
    exit := ← fields.optional? "exit" false Document.boolean?
    close := ← fields.optional? "close" false Document.boolean? }

/-- The document of a choice of moments. -/
def toDocument (events : SpanEvents) : Document :=
  .table [("new", .boolean events.new), ("enter", .boolean events.enter),
    ("exit", .boolean events.exit), ("close", .boolean events.close)]

end SpanEvents

namespace LoggingSettings

/-- The path that a document gives, where the empty document gives none. -/
def path? : Document → Option (Option String)
  | .null => some none
  | document => document.text?.map some

/-- The section that a document describes. -/
def ofDocument? (surplus : Bool) (document : Document) : Option LoggingSettings := do
  let fields ← document.fields? surplus ["level", "format", "output", "file_path", "thread_ids",
    "file_location", "span_events", "filters"]
  return {
    level := ← fields.optional? "level" defaultLevel Document.text?
    format := ← fields.optional? "format" .compact LogFormat.ofDocument?
    output := ← fields.optional? "output" .stdout LogOutput.ofDocument?
    filePath := ← fields.optional? "file_path" none path?
    threadIds := ← fields.optional? "thread_ids" false Document.boolean?
    fileLocation := ← fields.optional? "file_location" false Document.boolean?
    spanEvents := ← fields.optional? "span_events" {}
      (SpanEvents.ofDocument? surplus)
    filters := ← fields.optional? "filters" .empty TextMap.ofDocument? }

/-- The document of a section. -/
def toDocument (settings : LoggingSettings) : Document :=
  .table [("level", .text settings.level), ("format", .text settings.format.name),
    ("output", .text settings.output.name),
    ("file_path", match settings.filePath with
      | some path => .text path
      | none => .null),
    ("thread_ids", .boolean settings.threadIds),
    ("file_location", .boolean settings.fileLocation),
    ("span_events", settings.spanEvents.toDocument),
    ("filters", settings.filters.toDocument)]

end LoggingSettings

namespace UsageSettings

/-- The section that a document describes. -/
def ofDocument? (surplus : Bool) (document : Document) : Option UsageSettings := do
  let fields ← document.fields? surplus ["enabled", "queue_capacity"]
  return {
    enabled := ← fields.optional? "enabled" true Document.boolean?
    queueCapacity := ← fields.optional? "queue_capacity" defaultQueueCapacity Document.count? }

/-- The document of a section. -/
def toDocument (settings : UsageSettings) : Document :=
  .table [("enabled", .boolean settings.enabled),
    ("queue_capacity", .integer settings.queueCapacity)]

end UsageSettings

namespace ReplySettings

/-- The section that a document describes. -/
def ofDocument? (surplus : Bool) (document : Document) : Option ReplySettings := do
  let fields ← document.fields? surplus ["failure_message", "max_responses"]
  return {
    failureMessage := ← fields.optional? "failure_message" defaultFailureMessage Document.text?
    maxResponses := ← fields.optional? "max_responses" defaultMaxResponses Document.count? }

/-- The document of a section. -/
def toDocument (settings : ReplySettings) : Document :=
  .table [("failure_message", .text settings.failureMessage),
    ("max_responses", .integer settings.maxResponses)]

end ReplySettings

namespace Configuration

/-- The configuration that a document describes. A section given as an array may have surplus
items only where the argument says so. -/
def ofDocument? (surplus : Bool) (document : Document) : Option Configuration := do
  let fields ← document.fields? surplus ["command", "logging", "usage", "replies"]
  return {
    command := ← fields.optional? "command" {} (CommandSettings.ofDocument? surplus)
    logging := ← fields.optional? "logging" {} (LoggingSettings.ofDocument? surplus)
    usage := ← fields.optional? "usage" {} (UsageSettings.ofDocument? surplus)
    replies := ← fields.optional? "replies" {} (ReplySettings.ofDocument? surplus) }

/-- The document of a configuration. -/
def toDocument (configuration : Configuration) : Document :=
  .table [("command", configuration.command.toDocument),
    ("logging", configuration.logging.toDocument),
    ("usage", configuration.usage.toDocument),
    ("replies", configuration.replies.toDocument)]

end Configuration

end Switchboard
