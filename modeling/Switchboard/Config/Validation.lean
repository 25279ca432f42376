import Switchboard.Config.Schema
import Switchboard.Text.Quoted

/-!
# Validation of configurations

A configuration that can be read may still make no sense. The sections are checked in order, and
the first fault counts.
-/

namespace Switchboard

/-- What is wrong with a configuration. -/
inductive ConfigurationFault where
  | emptyLead
  | noDelimiter
  | emptyDelimiter
  | unknownLevel (level : String)
  | unknownModuleLevel (module level : String)
  | noFilePath
  | noQueueCapacity
  | noResponses
  deriving DecidableEq, Repr

/-- The names that count as log levels, in messages and in checks. -/
def levelNames : List String :=
  LogLevel.all.map LogLevel.name

namespace ConfigurationFault

/-- The wording of a fault. -/
def message : ConfigurationFault → String
  | emptyLead => "Command prefix must not be empty"
  | noDelimiter => "At least one command delimiter is required"
  | emptyDelimiter => "Command delimiters must not be empty strings"
  | unknownLevel level =>
    "Invalid log level: " ++ level ++ ". Valid values are: [" ++
      ", ".intercalate (levelNames.map quoted) ++ "]"
  | unknownModuleLevel module level => "Invalid log level for " ++ module ++ ": " ++ level
  | noFilePath => "File log output requires logging.file_path"
  | noQueueCapacity => "Usage queue capacity must be greater than 0"
  | noResponses => "Max responses must be greater than 0"

end ConfigurationFault

namespace CommandSettings

/-- What is wrong with the section. -/
def fault? (settings : CommandSettings) : Option ConfigurationFault :=
  if settings.lead = "" then
    some .emptyLead
  else if settings.delimiters = [] then
    some .noDelimiter
  else if "" ∈ settings.delimiters then
    some .emptyDelimiter
  else
    none

end CommandSettings

/-- Whether a text is the name of a log level in any case. -/
def isLevelName (level : String) : Bool :=
  levelNames.contains (lowercase level)

namespace LoggingSettings

/-- What is wrong with the section. The levels of modules are checked in the order of the
modules. -/
def fault? (settings : LoggingSettings) : Option ConfigurationFault :=
  if !isLevelName settings.level then
    some (.unknownLevel settings.level)
  else
    match settings.filters.entries.find? fun (_, level) => !isLevelName level with
    | some (module, level) => some (.unknownModuleLevel module level)
    | none =>
      if settings.output = .file ∧ settings.filePath = none then some .noFilePath else none

end LoggingSettings

namespace UsageSettings

/-- What is wrong with the section. -/
def fault? (settings : UsageSettings) : Option ConfigurationFault :=
  if settings.queueCapacity = 0 then some .noQueueCapacity else none

theorem fault?_eq_none_iff {settings : UsageSettings} :
    settings.fault? = none ↔ settings.queueCapacity ≠ 0 := by
  simp [fault?]

end UsageSettings

namespace ReplySettings

/-- What is wrong with the section. -/
def fault? (settings : ReplySettings) : Option ConfigurationFault :=
  if settings.maxResponses = 0 then some .noResponses else none

theorem fault?_eq_none_iff {settings : ReplySettings} :
    settings.fault? = none ↔ settings.maxResponses ≠ 0 := by
  simp [fault?]

end ReplySettings

namespace Configuration

/-- The first fault of a configuration. -/
def fault? (configuration : Configuration) : Option ConfigurationFault :=
  configuration.command.fault? <|> configuration.logging.fault? <|>
    configuration.usage.fault? <|> configuration.replies.fault?

/-- A configuration is sound if each of its sections is. -/
theorem fault?_eq_none_iff {configuration : Configuration} :
    configuration.fault? = none ↔
      configuration.command.fault? = none ∧ configuration.logging.fault? = none ∧
        configuration.usage.fault? = none ∧ configuration.replies.fault? = none := by
  simp [fault?, Option.orElse_eq_or, Option.or_eq_none_iff]

end Configuration

end Switchboard
