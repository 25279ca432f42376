import Switchboard.Bot.Echo
import Switchboard.Logging.Setup

/-!
# The echo bot on a console

The program reads its options from the command line, loads a configuration and takes every line of
its input as a message. A line ends with a line feed, which may have a carriage return before it.
-/

namespace Switchboard

/-- An echo bot that keeps the records of its use. -/
abbrev EchoBot := Bot EchoAction (List UsageRecord)

namespace EchoBot

/-- What the command line can set. -/
inductive Flag where
  | config
  | channel
  | user
  deriving DecidableEq, Repr

namespace Flag

/-- The flag with a given name. -/
def ofName? (name : String) : Option Flag :=
  [("config", config), ("channel", channel), ("user", user)].lookup name

end Flag

/-- What the command line asks for. -/
structure Options where
  /-- The configuration file; one is searched for if absent. -/
  config : Option String := none
  channel : ChannelKind := .privateText
  user : String := "console"
  deriving DecidableEq, Repr

namespace Options

/-- The kinds of channels that the console can stand for, by their names on the command line. -/
def channelNames : List (String × ChannelKind) :=
  [("private", .privateText), ("group-private", .groupPrivateText),
    ("group-public", .groupPublicText)]

/-- The options in which a flag has a value. A path must not be empty. -/
def set? (options : Options) (value : String) : Flag → Option Options
  | .config => if value = "" then none else some { options with config := some value }
  | .channel => (channelNames.lookup value).map fun kind => { options with channel := kind }
  | .user => some { options with user := value }

/-- The name and the attached value of an argument that is a flag. -/
def flag? (argument : String) : Option (String × Option String) :=
  (dropStart? "--".toList argument.toList).map fun text =>
    let name := String.ofList (text.takeWhile (· != '='))
    match text.dropWhile (· != '=') with
    | [] => (name, none)
    | _ :: value => (name, some (String.ofList value))

/-- Whether an argument can be the value of the flag before it. -/
def isValue (argument : String) : Bool :=
  argument == "-" || !argument.startsWith "-"

/-- The options that arguments describe. A flag is given once at most, and its value is attached to
it or follows it. -/
def ofArguments? (arguments : List String) : Option Options :=
  go [] {} arguments
where
  /-- The options after the given ones have been changed by further arguments. -/
  go (seen : List Flag) (options : Options) : List String → Option Options
    | [] => some options
    | argument :: rest => do
      if argument = "--" ∧ rest = [] then
        return options
      let (name, attached) ← flag? argument
      let flag ← Flag.ofName? name
      if flag ∈ seen then
        none
      else
        match attached, rest with
        | some value, rest => go (flag :: seen) (← options.set? value flag) rest
        | none, [] => none
        | none, value :: rest =>
          if isValue value then go (flag :: seen) (← options.set? value flag) rest else none

end Options

/-- The echo bot that follows the configuration it finds. It logs from the beginning, so the log is
opened before the configuration is checked. -/
def start (options : Options) (surroundings : Surroundings) : Except BotError EchoBot := do
  let loader := { Loader.ofSurroundings surroundings with file := options.config }
  let (configuration, _) ← (loader.load surroundings).mapError .configuration
  if !configuration.logging.sink.isAvailable surroundings.files then
    throw .logFileUnavailable
  Bot.assemble configuration true (BuildStep.builder commands) EchoAction.perform .memory []

/-- The message that a line of the console is. -/
def event (options : Options) (line : String) : TextEvent where
  content := line
  channelKind := options.channel
  channelId := "console"
  userId := options.user

/-- The bot after a line, and the lines that it prints. -/
def respond (options : Options) (bot : EchoBot) (line : String) : EchoBot × List String :=
  let (bot, answer) := bot.handle (event options line)
  (bot, answer.replies.map Response.content)

/-- A line without its end. -/
def withoutEnd (line : List Char) : List Char :=
  match line.reverse with
  | '\n' :: '\r' :: rest => rest.reverse
  | '\n' :: rest => rest.reverse
  | _ => line

/-- The lines of a text with their ends. The last line may lack an end, but it is not empty. -/
def linesOf (text : List Char) : List (List Char) :=
  go [] text
where
  /-- The lines of a text behind the reversed beginning of the first one. -/
  go (pending : List Char) : List Char → List (List Char)
    | [] => if pending.isEmpty then [] else [pending.reverse]
    | '\n' :: rest => ('\n' :: pending).reverse :: go [] rest
    | character :: rest => go (character :: pending) rest

/-- Everything that a bot prints for lines of input. -/
def printed (options : Options) : EchoBot → List String → List String
  | _, [] => []
  | bot, line :: rest =>
    let (bot, lines) := respond options bot line
    lines ++ printed options bot rest

/-- How a run of the program ends. -/
structure Outcome where
  status : UInt8
  output : String
  deriving DecidableEq, Repr

/-- The exit status of a run with refused arguments. -/
def refusedArguments : UInt8 :=
  2

/-- The exit status of a run without a bot. -/
def exitStatus : BotError → UInt8
  | .queueTooLarge | .logFileUnavailable => 101
  | _ => 1

/-- A run of the program. -/
def run (arguments : List String) (surroundings : Surroundings) (input : String) : Outcome :=
  match Options.ofArguments? arguments with
  | none => ⟨refusedArguments, ""⟩
  | some options =>
    match start options surroundings with
    | .error error => ⟨exitStatus error, ""⟩
    | .ok bot =>
      let lines := (linesOf input.toList).map fun line => String.ofList (withoutEnd line)
      ⟨0, String.join ((printed options bot lines).map (· ++ "\n"))⟩

end EchoBot

end Switchboard
