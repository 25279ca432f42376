import Switchboard.Bot.Session
import Switchboard.Tree.Listing

/-!
# The echo bot

A small bot for the console. Every line is a message, and the replies are printed.
-/

namespace Switchboard

/-- What the commands of the echo bot do. -/
inductive EchoAction where
  | echo
  | ping
  | square
  | sum
  | groupInfo
  | help
  deriving DecidableEq, Repr

/-- A reply of one text, or the failure to read an argument. -/
def Reply.ofArgument : Except ArgumentError String → Reply
  | .ok content => .text content
  | .error error => .failure error.message

namespace EchoAction

/-- The text of a number with its square. -/
def squareText (number : Float) : String :=
  floatText number ++ " squared is " ++ floatText (number * number)

/-- The text of two numbers with their sum. -/
def sumText (left right : Float) : String :=
  floatText left ++ " + " ++ floatText right ++ " = " ++ floatText (left + right)

/-- The text about the channel and the sender of a message. -/
def groupText (event : TextEvent) : String :=
  "This is a group-only command!\n• Channel: " ++ event.channelId ++ "\n• User: " ++ event.userId

/-- What a command of the echo bot replies. -/
def perform (action : EchoAction) (context : CommandContext EchoAction)
    (arguments : Arguments) : Reply :=
  match action with
  | .echo => .ofArgument (arguments.text 0)
  | .ping => .text "Pong!"
  | .square => .ofArgument ((arguments.float 0).map squareText)
  | .sum => .ofArgument do return sumText (← arguments.float 0) (← arguments.float 1)
  | .groupInfo => .text (groupText context.event)
  | .help =>
    match context.tree.listHandlers .root true with
    | .error error => .failure error.message
    | .ok listings =>
      .text ("\n".intercalate (listings.map fun listing =>
        listing.usage ++ " - " ++ listing.description))

end EchoAction

namespace EchoBot

/-- The feature of repeating a text. -/
def echoFeature : Feature :=
  ⟨"txt_echo", "Repeat the given text."⟩

/-- The feature of calculating. -/
def calculationFeature : Feature :=
  ⟨"calc", "Simple arithmetic."⟩

/-- The commands of the echo bot. The nodes are numbered in the order of their creation. -/
def commands : List (BuildStep EchoAction) :=
  [.addChild .root { codes := ["echo", "e"], order := 0 },
    .register ⟨1⟩ {
      parameters := [⟨"text", .text⟩]
      argumentHelp := ["Text to repeat; quote it to keep spaces"]
      feature := some echoFeature } .echo,
    .addChild .root { codes := ["ping"], order := 1 },
    .register ⟨2⟩ { description := some "Pong!" } .ping,
    .addChild .root { codes := ["calc"], order := 2 },
    .register ⟨3⟩ {
      parameters := [⟨"n", .float⟩]
      feature := some calculationFeature } .square,
    .register ⟨3⟩ {
      parameters := [⟨"a", .float⟩, ⟨"b", .float⟩]
      feature := some calculationFeature } .sum,
    .addChild .root { codes := ["group"], order := 3 },
    .register ⟨4⟩ {
      scope := .groupOnly
      description := some "Show group channel info." } .groupInfo,
    .addChild .root { codes := ["help", "h"], order := 4 },
    .register ⟨5⟩ { description := some "List every command." } .help]

end EchoBot

end Switchboard
