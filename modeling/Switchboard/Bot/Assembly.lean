import Switchboard.Config.Loader
import Switchboard.Dispatch.Dispatcher
import Switchboard.Usage.Recording

/-!
# Assembly of a bot

A bot is assembled from a configuration and a function that builds its commands into a tree. The
configuration gives the tree its root. Usage is recorded in the background, so a bot that records
it can be assembled only where background tasks run.
-/

namespace Switchboard

/-- The greatest number of records that a bot can keep waiting. -/
def maximalQueueCapacity : Nat :=
  0x1FFFFFFFFFFFFFFF

/-- The reasons for which there is no bot. -/
inductive BotError where
  | configuration (error : ConfigurationError)
  | tree (error : TreeError)
  | noBackgroundTasks
  | queueTooLarge
  | logFileUnavailable
  deriving DecidableEq, Repr

namespace BotError

/-- The wording of an error. -/
def message : BotError → String
  | configuration error => error.message
  | tree error => "Failed to assemble command tree: " ++ error.message
  | noBackgroundTasks => "Usage recording requires a running tokio runtime"
  | queueTooLarge =>
    "Usage queue capacity must not exceed " ++ naturalText maximalQueueCapacity
  | logFileUnavailable => "The log file cannot be opened for writing"

end BotError

namespace CommandSettings

/-- The root of a tree whose commands follow the section. -/
def rootDeclaration (settings : CommandSettings) : RootDeclaration where
  lead := settings.lead
  delimiters := settings.delimiters
  caseInsensitive := settings.caseInsensitive

end CommandSettings

section Results

variable {Error Fault Value Result : Type}

theorem bind_eq_ok_iff {first : Except Error Value} {next : Value → Except Error Result}
    {result : Result} :
    first >>= next = .ok result ↔ ∃ value, first = .ok value ∧ next value = .ok result := by
  cases first <;> simp [bind, Except.bind]

theorem mapError_eq_ok_iff {first : Except Fault Value} {wrap : Fault → Error} {value : Value} :
    first.mapError wrap = .ok value ↔ first = .ok value := by
  constructor
  · intro same
    cases first with
    | error fault => cases same
    | ok found =>
      cases same
      rfl
  · rintro rfl
    rfl

theorem guard_eq_ok_iff {fails : Bool} {error : Error} {next : Except Error Result}
    {result : Result} :
    (if fails then throw error >>= fun (_ : PUnit) => next else next) = .ok result ↔
      fails = false ∧ next = .ok result := by
  cases fails <;> simp [bind, Except.bind, throw, throwThe, MonadExceptOf.throw]

end Results

/-- A dispatcher with a configuration and a record of the use of its commands. -/
structure Bot (Action State : Type) where
  configuration : Configuration
  dispatcher : Dispatcher Action
  /-- Where records of use go. Nothing is put there if the configuration does not want it. -/
  recording : UsageRecording State

namespace Bot

variable {Action State : Type}

/-- The bot of a configuration. A faulty configuration is refused before any command is built, and
what the recording of usage lacks is noticed last. -/
def assemble (configuration : Configuration) (backgroundTasks : Bool)
    (build : CommandBuilder Action)
    (perform : Action → CommandContext Action → Arguments → Reply)
    (sink : UsageSink State) (state : State) : Except BotError (Bot Action State) := do
  (configuration.validate).mapError .configuration
  let root ← (CommandTree.ofRoot configuration.command.rootDeclaration).mapError .tree
  let tree ← (build root).mapError .tree
  if configuration.usage.enabled && !backgroundTasks then
    throw .noBackgroundTasks
  if configuration.usage.enabled && maximalQueueCapacity < configuration.usage.queueCapacity then
    throw .queueTooLarge
  return {
    configuration := configuration
    dispatcher := ⟨tree, .membership, .standard, perform⟩
    recording := .start configuration.usage.queueCapacity sink state }

/-- There is a bot exactly if the configuration is sound, the commands can be built, and what the
recording of usage needs is there. -/
theorem assemble_eq_ok_iff {configuration : Configuration} {backgroundTasks : Bool}
    {build : CommandBuilder Action} {perform : Action → CommandContext Action → Arguments → Reply}
    {sink : UsageSink State} {state : State} {bot : Bot Action State} :
    assemble configuration backgroundTasks build perform sink state = .ok bot ↔
      configuration.fault? = none ∧
      (configuration.usage.enabled = true → backgroundTasks = true ∧
        configuration.usage.queueCapacity ≤ maximalQueueCapacity) ∧
      ∃ root tree, CommandTree.ofRoot configuration.command.rootDeclaration = .ok root ∧
        build root = .ok tree ∧
        bot = ⟨configuration, ⟨tree, .membership, .standard, perform⟩,
          .start configuration.usage.queueCapacity sink state⟩ := by
  have recordableIff : ((configuration.usage.enabled && !backgroundTasks) = false ∧
      (configuration.usage.enabled &&
        decide (maximalQueueCapacity < configuration.usage.queueCapacity)) = false) ↔
      (configuration.usage.enabled = true → backgroundTasks = true ∧
        configuration.usage.queueCapacity ≤ maximalQueueCapacity) := by
    cases configuration.usage.enabled <;> simp
  simp only [assemble, bind_eq_ok_iff, mapError_eq_ok_iff, guard_eq_ok_iff]
  rw [← Configuration.validate_eq_ok_iff, ← recordableIff]
  constructor
  · rintro ⟨⟨⟩, valid, root, created, tree, built, withTasks, withRoom, same⟩
    exact ⟨valid, ⟨withTasks, withRoom⟩, root, tree, created, built, (Except.ok.inj same).symm⟩
  · rintro ⟨valid, ⟨withTasks, withRoom⟩, root, tree, created, built, rfl⟩
    exact ⟨⟨⟩, valid, root, created, tree, built, withTasks, withRoom, rfl⟩

end Bot

end Switchboard
