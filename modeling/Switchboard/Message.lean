import Switchboard.Channel

/-!
# Messages, responses and usage records

What comes in from a channel, what goes back to it, and what is reported about a command that is
about to run.
-/

namespace Switchboard

/-- A text message with its channel and its sender. -/
structure TextEvent where
  content : String
  channelKind : ChannelKind
  channelId : String
  userId : String
  deriving DecidableEq, Repr

/-- One text sent back to the channel of a message. -/
structure Response where
  content : String
  deriving DecidableEq, Repr

/-- The feature under which uses of a handler are counted. -/
structure Feature where
  key : String
  description : String
  deriving DecidableEq, Repr

/-- The report of one use of a command. -/
structure UsageRecord where
  feature : Option Feature
  channelId : String
  userId : String
  deriving DecidableEq, Repr

end Switchboard
