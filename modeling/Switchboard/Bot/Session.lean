import Switchboard.Bot.Assembly

/-!
# A session with a bot

A bot answers every message. A dispatch that fails is logged and answered with the configured
text, and a dispatch that has much to say is cut short. The records of use are stored only when
the bot is given the chance, and when it shuts down.
-/

namespace Switchboard

/-- What a bot gives back for a message. -/
structure Answer where
  replies : List Response
  entries : List LogEntry
  deriving DecidableEq, Repr

namespace ReplySettings

/-- What a user gets to see of the result of a dispatch. -/
def answer (settings : ReplySettings) : Except DispatchError (List Response) → Answer
  | .ok responses => ⟨responses.take settings.maxResponses, []⟩
  | .error error =>
    ⟨[⟨settings.failureMessage⟩], [⟨"Command failed", [("error", .text error.message)]⟩]⟩

end ReplySettings

namespace Bot

variable {Action State : Type}

/-- The bot after it has been told of uses of its commands. -/
def record (bot : Bot Action State) (records : List UsageRecord) : Bot Action State :=
  if bot.configuration.usage.enabled then
    { bot with recording := { bot.recording with
        stream := records.foldl UsageStream.record bot.recording.stream } }
  else
    bot

/-- The bot after a message, and its answer. -/
def handle (bot : Bot Action State) (event : TextEvent) : Bot Action State × Answer :=
  let dispatch := bot.dispatcher.handle event
  (bot.record dispatch.records, bot.configuration.replies.answer dispatch.result)

/-- The bot after the records that wait have been stored, and what is logged meanwhile. -/
def flush (bot : Bot Action State) : Bot Action State × List LogEntry :=
  let (recording, entries) := bot.recording.run
  ({ bot with recording := recording }, entries)

/-- The bot after it has stored the records that wait and has ended, and what is logged
meanwhile. -/
def shutDown (bot : Bot Action State) : Bot Action State × List LogEntry :=
  flush { bot with recording := { bot.recording with stream := bot.recording.stream.cancel } }

end Bot

end Switchboard
