/-!
# Channels

A message arrives on a channel, and the kind of the channel decides which commands may run there.
-/

namespace Switchboard

/-- The kinds of channel on which a message can arrive. -/
inductive ChannelKind where
  | unknown
  | privateText
  | groupPrivateText
  | groupPublicText
  deriving DecidableEq, Repr

namespace ChannelKind

/-- Every kind of channel. -/
def all : List ChannelKind :=
  [unknown, privateText, groupPrivateText, groupPublicText]

/-- The kinds of channel that a scope can be offered for. -/
def restrictable : List ChannelKind :=
  [privateText, groupPrivateText, groupPublicText]

/-- The name of a kind in messages and documents. -/
def key : ChannelKind → String
  | unknown => "unknown"
  | privateText => "private_text"
  | groupPrivateText => "group_private_text"
  | groupPublicText => "group_public_text"

/-- The kind with a given name. -/
def ofKey? (key : String) : Option ChannelKind :=
  all.find? (·.key == key)

/-- Whether several users share the channel. -/
def isGroup : ChannelKind → Bool
  | groupPrivateText | groupPublicText => true
  | unknown | privateText => false

end ChannelKind

end Switchboard
